import ApiTypes.Decoding
import ApiTypes.Options

/-!
# Decoding options

Options are an object or the list of their fields; a section is a boolean or an object.

## Main definitions

* `Options.decode` — the options of a JSON value
-/

namespace ApiTypes

open Decoding

/-- The filters of a section: lists of patterns, which may be left out. -/
def Section.decodeFilters (entries : List (String × Json)) : Decoded Section :=
  enterEntries
    [⟨"include", fun value filters => (⟨·, filters.2⟩) <$> listOf string value⟩,
      ⟨"exclude", fun value filters => (⟨filters.1, ·⟩) <$> listOf string value⟩]
    entries (([], []) : List String × List String) |>.map fun (included, excluded) =>
      .filtered included excluded

/-- A section. No fault inside it is shown. -/
def Section.decode : Json → Decoded Section
  | .bool value => .ok (.enabled value)
  | .object entries => decodeFilters entries |>.mapError fun _ => ⟨[], .noVariant "SectionOption"⟩
  | _ => fail (.noVariant "SectionOption")

/-- Options. -/
def Options.decode : Json → Decoded Options :=
  record "ConfigFileOptions"
    [field "typeNameFormat" (optional string) fun template o =>
        { o with nameFormat := template.map NameFormat.mk },
      field "paths" (optional Section.decode) fun paths o => { o with paths },
      field "schemas" (optional Section.decode) fun schemas o => { o with schemas }]
    {}

end ApiTypes
