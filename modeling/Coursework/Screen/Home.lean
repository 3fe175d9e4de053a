import Coursework.Screen.Basic

/-!
# The home screen and the frame of all pages
-/

namespace Coursework.Screen

open Html

/-- What the home screen tells a user. -/
def greeting (auth : Auth) : String :=
  if auth.loading then "Loading..."
  else if auth.user.isSome then "Open a course from your course list."
  else "Sign in to see your courses."

/-- The home screen. -/
def home : Screen := .still fun store =>
  [.classed .div "home-page" [.value (greeting store.auth)]]

/-- What is shown where there is no page. -/
def notFound : Screen := .still fun _ => [.text "Page not found."]

/-- A whole page: the name of the site, that of the user, and a screen. -/
def page (screen : Screen) (store : Store) : Html :=
  let userName := match store.auth.user with
    | some user => user.name
    | none => ""
  [.classed .nav "navbar navbar-dark bg-dark"
      [.element .a [.classes ["navbar-brand"], .href "/"] [.text "QuickFeed"],
        .classed .span "navbar-text" [.value userName]],
    .classed .mainPart "container-fluid" (screen.html store)]

end Coursework.Screen
