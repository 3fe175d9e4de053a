import Coursework.Grading.Progress
import Coursework.Html.Basic

/-!
# Progress bars

Progress as it is drawn: a line at the lower edge of a link, or a bar of one or two parts.
-/

namespace Coursework.Screen

open Html Grading

/-- One part of a bar. -/
def segment (part : Segment) : Node :=
  .element .div
    [⟨.role, "progressbar"⟩, .classes ["progress-bar", part.cssClass],
      .style ("width: " ++ toString part.widthPercent ++ "%")]
    [.value part.text]

/-- Progress, drawn. -/
def progressBar : Progress → Node
  | .line color rightPercent =>
    .element .div
      [.style ("position: absolute; border-bottom: 1px solid " ++ color ++
        "; bottom: 0; left: 0; right: " ++ toString rightPercent ++ "%;")] []
  | .bar primary secondary =>
    .classed .div "progress" (segment primary :: (secondary.map segment).toList)

end Coursework.Screen
