import ApiTypes.DeclarationName
import Mathlib.Logic.Relation

/-!
# Slashes in names

The pieces of a path between its slashes are read one by one, and each adds its own part to a
name. So what a path adds is put together from what stands on the two sides of any slash, whatever
that is, and a slash adds nothing itself.

## Main definitions

* `PathTemplate.AddsSlash` — one slash more, beside another one or at an end

## Main results

* `PathTemplate.segments_append_slash` — a path is read on the two sides of a slash
* `PathTemplate.nameText_append_slash` — and so is its part of a name
* `declarationName_slashes` — what the path of a name is to it
-/

namespace ApiTypes

namespace PathTemplate

/-- The longer template has one slash more, next to another one or at an end. -/
inductive AddsSlash : String → String → Prop
  | doubled (left right : String) : AddsSlash (left ++ "/" ++ right) (left ++ "//" ++ right)
  | inFront (template : String) : AddsSlash template ("/" ++ template)
  | atEnd (template : String) : AddsSlash template (template ++ "/")

/-- No segment reaches across a slash, even if a brace or an escape does. -/
theorem segments_append_slash (left right : String) :
    segments (left ++ "/" ++ right) = segments left ++ segments right := by
  have chars : (left ++ "/" ++ right).toList = left.toList ++ '/' :: right.toList := by simp
  have cut : Text.splitWhere (· == '/') (left.toList ++ '/' :: right.toList) =
      Text.splitWhere (· == '/') left.toList ++ Text.splitWhere (· == '/') right.toList :=
    Text.splitWhere_append rfl _ _
  rw [segments, chars, cut, List.filter_append, List.map_append]
  rfl

theorem nameText_empty : nameText "" = "" := rfl

theorem nameText_append_slash (left right : String) :
    nameText (left ++ "/" ++ right) = nameText left ++ nameText right := by
  simp only [nameText, segments_append_slash, List.flatten_append, List.map_append,
    String.join_append]

theorem AddsSlash.nameText_eq {template longer : String} (adds : AddsSlash template longer) :
    nameText longer = nameText template := by
  cases adds with
  | doubled left right =>
    -- between the two slashes there is an empty template
    have apart : left ++ "//" ++ right = left ++ "/" ++ ("" ++ "/" ++ right) := by
      apply String.toList_injective
      simp
    rw [apart, nameText_append_slash, nameText_append_slash, nameText_append_slash,
      nameText_empty, String.empty_append]
  | inFront =>
    have apart := nameText_append_slash "" template
    rwa [String.empty_append, nameText_empty, String.empty_append] at apart
  | atEnd =>
    have apart := nameText_append_slash template ""
    rwa [String.append_empty, nameText_empty, String.append_empty] at apart

end PathTemplate

open PathTemplate (AddsSlash)

theorem declarationName_of_addsSlash {template longer : String}
    (adds : Relation.ReflTransGen AddsSlash template longer) (method : Method) (suffix : Suffix) :
    declarationName longer method suffix = declarationName template method suffix := by
  induction adds with
  | refl => rfl
  | tail _ last ih => rw [← ih, declarationName, declarationName, last.nameText_eq]

/-- A name is made of what the method, the path and the suffix add to it. The path's part is empty
for the empty path, and on every path it is made of the parts of what stands in front of any slash
and of what stands behind it. So more slashes next to others or at the ends leave all names as they
are. -/
theorem declarationName_slashes :
    (∃ (before : Method → String) (body : String → String) (after : Suffix → String),
      (∀ template method suffix,
        declarationName template method suffix = before method ++ body template ++ after suffix) ∧
      body "" = "" ∧ ∀ left right, body (left ++ "/" ++ right) = body left ++ body right) ∧
    ∀ template longer, Relation.ReflTransGen AddsSlash template longer → ∀ method suffix,
      declarationName longer method suffix = declarationName template method suffix := by
  refine ⟨⟨fun method => Text.pascalCase method.text, PathTemplate.nameText, Suffix.text,
    fun _ _ _ => rfl, PathTemplate.nameText_empty, PathTemplate.nameText_append_slash⟩, ?_⟩
  intro template longer adds
  exact declarationName_of_addsSlash adds

/-- A brace and an escape that the same slash tears apart, and slashes on all sides. -/
theorem declarationName_slashes_of_torn :
    Relation.ReflTransGen AddsSlash "a\x7bb%2/0c\x7d" "/a\x7bb%2//0c\x7d/" ∧
      declarationName "/a\x7bb%2//0c\x7d/" .get .requestBody =
        declarationName "a\x7bb%2/0c\x7d" .get .requestBody ∧
      declarationName "a\x7bb%2/0c\x7d" .get .requestBody = "GetAB20cRequestBody" := by
  have doubled : AddsSlash "a\x7bb%2/0c\x7d" "a\x7bb%2//0c\x7d" := .doubled "a\x7bb%2" "0c\x7d"
  have inFront : AddsSlash "a\x7bb%2//0c\x7d" "/a\x7bb%2//0c\x7d" := .inFront "a\x7bb%2//0c\x7d"
  have atEnd : AddsSlash "/a\x7bb%2//0c\x7d" "/a\x7bb%2//0c\x7d/" := .atEnd "/a\x7bb%2//0c\x7d"
  have adds : Relation.ReflTransGen AddsSlash "a\x7bb%2/0c\x7d" "/a\x7bb%2//0c\x7d/" :=
    ((Relation.ReflTransGen.single doubled).tail inFront).tail atEnd
  exact ⟨adds, declarationName_slashes.2 _ _ adds .get .requestBody, by decide +kernel⟩

end ApiTypes
