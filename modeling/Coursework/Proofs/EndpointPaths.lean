import Coursework.Api.Endpoint
import Coursework.Proofs.Decimals
import Coursework.Proofs.TrimmedTexts
import Coursework.Server.Proxy
import Coursework.Server.Settings

/-!
# Paths of the backend's resources

`path_tells_resource` says that no two resources of the backend share a path, and that the server
passes a call on to the address of the backend followed by the path as it is. So calls that arrive
at one address are calls of one resource.

The path is taken apart in two steps. Slashes separate the segments, since neither a word of the
paths nor a number has one. And the segments are those of one resource only: `ofSegments?` reads
the resource back from them, with the reader of identifiers for the numbers.
-/

namespace Coursework

namespace Api.Endpoint

open Numeral

/-- The resource with these segments. -/
def ofSegments? : List String → Option Endpoint
  | [c] => course <$> readUInt64? c
  | [c, "reviews"] => reviews <$> readUInt64? c
  | [c, "groups"] => groups <$> readUInt64? c
  | [c, "reviews", r] => review <$> readUInt64? c <*> readUInt64? r
  | [c, "enrollments", e] => enrollment <$> readUInt64? c <*> readUInt64? e
  | [c, "groups", g] => group <$> readUInt64? c <*> readUInt64? g
  | [c, "submissions", s] => submission <$> readUInt64? c <*> readUInt64? s
  | [c, "submissions", s, "release"] => release <$> readUInt64? c <*> readUInt64? s
  | _ => none

/-- A resource is read back from its segments. -/
theorem ofSegments?_segments (endpoint : Endpoint) :
    ofSegments? endpoint.segments = some endpoint := by
  cases endpoint <;> simp [ofSegments?, segments, readUInt64?_toString, Seq.seq]

/-- No segment has a slash in it. -/
theorem slash_not_mem_segment (endpoint : Endpoint) :
    ∀ segment ∈ endpoint.segments.map String.toList, '/' ∉ segment := by
  have notInId := not_mem_toString_uint64 (c := '/') (by decide)
  cases endpoint <;> simp [segments, notInId]

theorem segments_ne_nil (endpoint : Endpoint) : endpoint.segments ≠ [] := by
  cases endpoint <;> exact List.cons_ne_nil _ _

theorem toList_path (endpoint : Endpoint) :
    endpoint.path.toList =
      "/api/courses/".toList ++ ['/'].intercalate (endpoint.segments.map String.toList) := by
  rw [path, String.toList_append, String.toList_intercalate]
  rfl

/-- Resources of one path are the same. -/
theorem eq_of_path_eq {first second : Endpoint} (same : first.path = second.path) :
    first = second := by
  have texts : ['/'].intercalate (first.segments.map String.toList) =
      ['/'].intercalate (second.segments.map String.toList) := by
    have characters := congrArg String.toList same
    rw [toList_path, toList_path] at characters
    exact List.append_cancel_left characters
  have split (endpoint : Endpoint) :
      (['/'].intercalate (endpoint.segments.map String.toList)).splitOn '/' =
        endpoint.segments.map String.toList :=
    List.splitOn_intercalate '/' endpoint.slash_not_mem_segment
      (mt List.map_eq_nil_iff.mp endpoint.segments_ne_nil)
  have segments : first.segments = second.segments := by
    have mapped := congrArg (List.splitOn '/') texts
    rw [split, split] at mapped
    exact List.map_injective_iff.mpr (fun _ _ => String.toList_injective) mapped
  have resources := congrArg ofSegments? segments
  rw [ofSegments?_segments, ofSegments?_segments] at resources
  exact Option.some.inj resources

end Api.Endpoint

namespace Server

/-- Accepted settings keep an address without slashes at its end. -/
theorem Settings.dropEndWhile_backendUrl {environment : Environment} {settings : Settings}
    (accepted : Settings.ofEnvironment environment = .ok settings) :
    Text.dropEndWhile (· = '/') settings.backendUrl = settings.backendUrl := by
  obtain ⟨url, port, proxyTimeout, backend, -, -, rfl⟩ :=
    Settings.ofEnvironment_eq_ok_iff.mp accepted
  obtain ⟨normal, -⟩ := Settings.backend_eq_ok_iff.mp backend
  obtain ⟨value, -, rfl⟩ := Option.map_eq_some_iff.mp normal
  exact Text.dropEndWhile_dropEndWhile _ _

/-- The path of a resource has one slash before its first word. -/
theorem slash_append_dropStartWhile_path (endpoint : Api.Endpoint) :
    "/" ++ Text.dropStartWhile (· = '/') endpoint.path = endpoint.path := by
  apply String.toList_injective
  rw [String.toList_append, Text.toList_dropStartWhile, endpoint.toList_path]
  rfl

/-- A call of a resource is sent to the kept address followed by the path as it is. -/
theorem backendAddress_path {environment : Environment} {settings : Settings}
    (accepted : Settings.ofEnvironment environment = .ok settings) (endpoint : Api.Endpoint) :
    backendAddress settings.backendUrl endpoint.path = settings.backendUrl ++ endpoint.path := by
  rw [backendAddress, Settings.dropEndWhile_backendUrl accepted, String.append_assoc,
    slash_append_dropStartWhile_path]

/-- Equal paths are paths of one resource. Under accepted settings the path comes after the
address of the backend unchanged, so equal addresses are addresses of one resource, too. -/
theorem path_tells_resource :
    (∀ first second : Api.Endpoint, first.path = second.path ↔ first = second) ∧
    ∀ environment settings, Settings.ofEnvironment environment = .ok settings →
      (∀ endpoint : Api.Endpoint,
        backendAddress settings.backendUrl endpoint.path =
          settings.backendUrl ++ endpoint.path) ∧
      ∀ first second : Api.Endpoint,
        backendAddress settings.backendUrl first.path =
          backendAddress settings.backendUrl second.path ↔ first = second := by
  refine ⟨fun first second => ⟨Api.Endpoint.eq_of_path_eq, congrArg _⟩,
    fun environment settings accepted => ⟨backendAddress_path accepted, fun first second => ?_⟩⟩
  constructor
  case mp =>
    intro same
    rw [backendAddress_path accepted, backendAddress_path accepted] at same
    have paths := congrArg String.toList same
    rw [String.toList_append, String.toList_append] at paths
    exact Api.Endpoint.eq_of_path_eq (String.toList_injective (List.append_cancel_left paths))
  case mpr =>
    rintro rfl
    rfl

/-- Blanks and slashes around the address of the backend are not kept. -/
def spacedEnvironment : Environment where
  backendUrl := some " http://backend:8080// "
  port := none
  proxyTimeout := some "5"

/-- Under these settings, the greatest identifiers come out whole, and one submission is told
from its release. -/
theorem path_tells_resource_of_spacedEnvironment :
    Settings.ofEnvironment spacedEnvironment = .ok ⟨3000, "http://backend:8080", 5⟩ ∧
    backendAddress "http://backend:8080" (Api.Endpoint.release 7 18446744073709551615).path =
      "http://backend:8080/api/courses/7/submissions/18446744073709551615/release" ∧
    backendAddress "http://backend:8080" (Api.Endpoint.submission 7 12).path ≠
      backendAddress "http://backend:8080" (Api.Endpoint.release 7 12).path := by
  have accepted : Settings.ofEnvironment spacedEnvironment =
      .ok ⟨3000, "http://backend:8080", 5⟩ := by decide +kernel
  obtain ⟨sent, told⟩ := path_tells_resource.2 _ _ accepted
  refine ⟨accepted, (sent _).trans (by decide +kernel), fun same => ?_⟩
  exact absurd ((told _ _).mp same) (by decide)

end Server

end Coursework
