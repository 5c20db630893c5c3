import SalonBooking.Proofs.Text.Split
import SalonBooking.Service.Framework

/-!
# Paths of endpoints

A path that does not end in a slash or a line feed names what its parts name;
so the path at which a form is published names every form whose id has no slash.

* `ofPath_eq_ofParts`: the endpoints of such a path are those of its parts.
* `ofPath_deployPath`: publishing and withdrawing a form.
-/

namespace SalonBooking

/-- What the standard framework reads of a request to an endpoint. -/
theorem Framework.read_standard {limits : Limits} {request : Request} {endpoint : Endpoint}
    (h : Endpoint.find request.method request.path = .ok endpoint) :
    (standard limits).read request = readAt limits request endpoint := by
  simp only [standard, h]

/-- What is read of the value of a body is what the value is read to. -/
theorem Framework.readBody_value {α : Type} {limits : Limits} {ofJson : Json → Reading α} {v : Json}
    {a : α} (h : ofJson v = .ok a) : readBody limits ofJson (.value v) = .ok a := by
  rw [readBody, h]
  rfl

namespace Endpoint

section
variable {path : String} {last : Char} (hlast : path.toList.getLast? = some last)

include hlast

theorem dropTrailingSlashes_eq_self (hslash : last ≠ '/') :
    Text.dropTrailingSlashes path = path := by
  obtain ⟨before, hpath⟩ := List.getLast?_eq_some_iff.mp hlast
  have hkept : (path.toList.reverse.dropWhile (· == '/')).reverse = path.toList := by
    rw [hpath, List.reverse_concat, List.dropWhile_cons_of_neg (by simpa using hslash),
      ← List.reverse_concat, List.reverse_reverse]
  rw [Text.dropTrailingSlashes, Text.trimRightBy, hkept, String.ofList_toList]

theorem dropLineFeed_eq_self (hline : last ≠ '\n') : dropLineFeed path = path := by
  rw [dropLineFeed]
  split
  · rename_i before hreverse
    rw [List.getLast?_eq_head?_reverse, hreverse] at hlast
    exact absurd (Option.some.inj hlast).symm hline
  · rfl

theorem ofPath_eq_ofParts {parts : List String} (hslash : last ≠ '/') (hline : last ≠ '\n')
    (hparts : (path.toList.splitOn '/').map String.ofList = parts) :
    ofPath path = ofParts parts := by
  have hsplit : path.splitOn "/" = parts := by
    rw [← hparts, ← Text.splitOn_singleton]
  rw [ofPath, dropTrailingSlashes_eq_self hlast hslash, named, dropLineFeed_eq_self hlast hline,
    hsplit]
  simp

end

/-- The path at which a form is published and withdrawn. -/
def deployPath (formId : String) : String :=
  "/api/forms/" ++ formId ++ "/deploy"

theorem ofPath_deployPath {formId : String} (hslash : '/' ∉ formId.toList) (hne : formId ≠ "") :
    ofPath (deployPath formId) = [("POST", .publish formId), ("DELETE", .withdraw formId)] := by
  have hlast : (deployPath formId).toList.getLast? = some 'y' := by
    rw [deployPath, String.toList_append, List.getLast?_append]
    rfl
  have hjoined : (deployPath formId).toList = ['/'].intercalate
      [[], "api".toList, "forms".toList, formId.toList, "deploy".toList] := by
    simp [deployPath, List.intercalate]
  have hfree : ∀ part ∈ [[], "api".toList, "forms".toList, formId.toList, "deploy".toList],
      '/' ∉ part := by
    simp [hslash]
  have hparts : ((deployPath formId).toList.splitOn '/').map String.ofList =
      ["", "api", "forms", formId, "deploy"] := by
    rw [hjoined, List.splitOn_intercalate '/' hfree (List.cons_ne_nil _ _)]
    simp
  rw [ofPath_eq_ofParts hlast (by decide) (by decide) hparts]
  simp [ofParts, hne]

/-- Publishing and withdrawing are found there. -/
theorem find_deployPath {formId : String} (hslash : '/' ∉ formId.toList) (hne : formId ≠ "") :
    find "POST" (deployPath formId) = .ok (.publish formId) ∧
      find "DELETE" (deployPath formId) = .ok (.withdraw formId) := by
  rw [find, find, ofPath_deployPath hslash hne]
  exact ⟨rfl, rfl⟩

end Endpoint

end SalonBooking
