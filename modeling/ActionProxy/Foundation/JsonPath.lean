import ActionProxy.Foundation.JsonParse

/-!
The value at a path of member names, of a value and of the text it is printed as.
-/

namespace JsonText

/-- The value that a path of member names leads to, through objects only. -/
def jsonAt : List String → Json → Option Json
  | [], value => some value
  | key :: path, .obj members => (member? members key).bind (jsonAt path)
  | _ :: _, _ => none

theorem jsonAt_obj (key : String) (path : List String) (members : List (String × Option Json)) :
    jsonAt (key :: path) (.obj members) = (member? members key).bind (jsonAt path) :=
  rfl

theorem lookup_map_printed (members : List (String × Json)) (key : String) :
    (members.map (Prod.map id (printed insertionOrder))).lookup key =
      (members.lookup key).map (printed insertionOrder) := by
  induction members with
  | nil => rfl
  | cons member rest inductionHypothesis =>
      rw [List.map_cons, List.lookup_cons, List.lookup_cons, inductionHypothesis]
      change (match key == member.1 with | true => _ | false => _) = _
      cases key == member.1 with
      | true => rfl
      | false => rfl

theorem jsonAt_printed (path : List String) (value : Json) :
    jsonAt path (printed insertionOrder value) =
      (jsonAt path value).map (printed insertionOrder) := by
  induction path generalizing value with
  | nil => rfl
  | cons key path inductionHypothesis =>
      cases value with
      | null => rfl
      | bool value => rfl
      | num number => rfl
      | str text => rfl
      | arr items => rw [printed_arr]; rfl
      | obj members =>
          rw [printed_obj, jsonAt_obj, jsonAt_obj, member?]
          change ((definedMembers ((definedMembers members).map
            (fun member => (member.1, some (printed insertionOrder member.2))))).lookup key).bind _ = _
          rw [definedMembers_printed, lookup_map_printed]
          change _ = ((List.lookup key (definedMembers members)).bind _).map _
          cases List.lookup key (definedMembers members) with
          | none => rfl
          | some found => exact inductionHypothesis found

end JsonText
