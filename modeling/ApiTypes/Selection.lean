import ApiTypes.Document
import ApiTypes.Settings

/-!
# Selecting what is declared

The named schemas come first, under their own names; then, path by path and operation by
operation, the JSON bodies of the successful responses and of the request. Of two schemas with
one name the later one counts, in the place of the earlier one.

## Main definitions

* `Document.candidates` — what is met, in order: schemas under their names, and paths that the
  filter drops
* `Document.select` — the schemas that are declared, with the notices of their selection
-/

namespace ApiTypes

/-- What is met on the way through a document. -/
inductive Candidate where
  | skipped (template : String)
  | schema (name : String) (schema : Schema)
deriving Repr

/-- The bodies of an operation that may be declared: those of the responses whose status starts
with `2`, and that of the request. -/
def Operation.candidates (template : String) (method : Method) (op : Operation) :
    List Candidate :=
  let responses := op.responses.filterMap fun (status, response) =>
    if status.toList.head? = some '2' then
      response.jsonSchema.map (.schema (declarationName template method (.response status)))
    else none
  let request := (op.requestBody.bind RequestBody.jsonSchema).map
    (.schema (declarationName template method .requestBody))
  responses ++ request.toList

/-- The bodies behind a path, or that the path is dropped. -/
def PathFilter.candidates (filter : PathFilter) (template : String) (item : PathItem) :
    List Candidate :=
  if filter.retains template then item.flatMap fun (method, op) => op.candidates template method
  else [.skipped template]

/-- What is met in a document, in order. -/
def Document.candidates (document : Document) (settings : Settings) : List Candidate :=
  let schemas :=
    if settings.schemas then document.schemas.map fun (name, schema) => .schema name schema else []
  let bodies :=
    if settings.paths.isEnabled then
      document.paths.flatMap fun (template, item) => settings.paths.candidates template item
    else []
  schemas ++ bodies

/-- The schemas that are declared, by their bare names, and the notices of their selection. -/
structure Selection where
  entries : Entries Schema
  notices : List Notice
deriving Repr

namespace Selection

/-- The selection of nothing. -/
def empty : Selection := ⟨[], []⟩

/-- Takes up what is met. -/
def add (selection : Selection) : Candidate → Selection
  | .skipped template =>
    { selection with notices := selection.notices ++ [.skippedPath template] }
  | .schema name schema =>
    { entries := selection.entries.insert name schema
      notices :=
        if (selection.entries.find? name).isSome then selection.notices ++ [.replaced name]
        else selection.notices }

end Selection

/-- The schemas of a document that are declared. -/
def Document.select (document : Document) (settings : Settings) : Selection :=
  (document.candidates settings).foldl Selection.add .empty

end ApiTypes
