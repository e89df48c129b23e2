import ApiTypes.Document.Loading
import ApiTypes.Proofs.Entries
import ApiTypes.Proofs.Outcome
import ApiTypes.Proofs.Reference.Resolution
import ApiTypes.Proofs.Schema.Decoding

/-!
# Distinct keys

A mapping that is read keeps each key once. Expanding references keeps the keys of every object,
and a decoder takes over the keys of the object that it decodes. So in a document that was loaded
no path is described twice, no method of a path and no answer of a method.

## Main definitions

* `Json.HasDistinctKeys` — no object in the value has a key twice
* `Document.HasDistinctKeys` — nothing is described twice in the document
* `Decoding.Yields` — what a decoder gives for values with distinct keys

## Main results

* `Yaml.hasDistinctKeys_of_parseJson` — values that are read have distinct keys
* `Reference.Expands.hasDistinctKeys` — and so have their expansions
* `Document.hasDistinctKeys_of_load` — and the documents that are loaded
-/

namespace ApiTypes

/-- No object in the value has a key twice. -/
inductive Json.HasDistinctKeys : Json → Prop where
  | null : HasDistinctKeys .null
  | bool (b : Bool) : HasDistinctKeys (.bool b)
  | number (n : Json.Number) : HasDistinctKeys (.number n)
  | string (s : String) : HasDistinctKeys (.string s)
  | array {items : List Json} (each : ∀ item ∈ items, item.HasDistinctKeys) :
      HasDistinctKeys (.array items)
  | object {entries : List (String × Json)} (distinct : (Entries.keys entries).Nodup)
      (each : ∀ entry ∈ entries, entry.2.HasDistinctKeys) : HasDistinctKeys (.object entries)

/-! ### Reading a text -/

namespace Yaml

/-- Whatever the computation gives has the property. -/
def Gives {α : Type} (x : StateT Aliases Option α) (post : α → Prop) : Prop :=
  ∀ s a s', x.run s = some (a, s') → post a

section Gives

variable {α β : Type} {x : StateT Aliases Option α} {post : α → Prop} {post' : β → Prop}

theorem Gives.trivial : Gives x fun _ => True :=
  fun _ _ _ _ => True.intro

theorem Gives.pure {a : α} (h : post a) : Gives (pure a) post := by
  rintro s a s' ran
  obtain ⟨rfl, -⟩ := Prod.mk.inj (Option.some.inj ran)
  exact h

theorem Gives.failure : Gives failure post := by
  rintro s a s' ran
  cases ran

theorem Gives.lift {a? : Option α} (h : ∀ a, a? = some a → post a) : Gives (liftM a?) post := by
  cases a? with
  | none => exact .failure
  | some a => exact .pure (h a rfl)

theorem Gives.bind {f : α → StateT Aliases Option β} (first : Gives x post)
    (next : ∀ a, post a → Gives (f a) post') : Gives (x >>= f) post' := by
  intro s b s' ran
  rw [StateT.run_bind] at ran
  obtain ⟨⟨a, s₁⟩, ranFirst, ranNext⟩ := Option.bind_eq_some_iff.mp ran
  exact next a (first s a s₁ ranFirst) s₁ b s' ranNext

theorem Gives.mapM {f : α → StateT Aliases Option β} (each : ∀ a, Gives (f a) post')
    (as : List α) : Gives (as.mapM f) fun bs => ∀ b ∈ bs, post' b := by
  induction as with
  | nil =>
    rw [List.mapM_nil]
    exact .pure (List.forall_mem_nil _)
  | cons a as ih =>
    rw [List.mapM_cons]
    refine (each a).bind fun b first => ih.bind fun bs others => .pure ?_
    exact List.forall_mem_cons.mpr ⟨first, others⟩

end Gives

theorem hasDistinctKeys_of_toJson? {plain : Plain} {value : Json}
    (h : plain.toJson? = some value) : value.HasDistinctKeys := by
  cases plain <;> cases h <;> constructor

theorem hasDistinctKeys_of_scalarValue {tag : Option String} {style : Style} {text : String}
    {value : Json} (h : scalarValue tag style text = some value) : value.HasDistinctKeys := by
  unfold scalarValue plainValue at h
  split at h
  · split_ifs at h
    · split at h
      · cases h
        exact .string _
      · exact hasDistinctKeys_of_toJson? h
    · cases h
      exact .string _
  · obtain ⟨b, -, rfl⟩ := Option.map_eq_some_iff.mp h
    exact .bool b
  · obtain ⟨plain, -, h⟩ := Option.bind_eq_some_iff.mp h
    exact hasDistinctKeys_of_toJson? h
  · obtain ⟨plain, -, h⟩ := Option.bind_eq_some_iff.mp h
    exact hasDistinctKeys_of_toJson? h
  · split_ifs at h
    cases h
    exact .null
  · cases h
    exact .string _

theorem gives_scalar (tag : Option String) (style : Style) (text : String) :
    Gives (if isForeign tag then failure else liftM (scalarValue tag style text))
      Json.HasDistinctKeys := by
  split_ifs
  · exact .failure
  · exact .lift fun _ => hasDistinctKeys_of_scalarValue

theorem gives_toJson (depth : Nat) (node : Node) :
    Gives (node.toJson depth) Json.HasDistinctKeys := by
  induction depth generalizing node with
  | zero =>
    rw [Node.toJson]
    refine Gives.trivial.bind fun node _ => ?_
    cases node with
    | scalar p style text => exact gives_scalar p.tag style text
    | sequence p items => exact .failure
    | mapping p entries => exact .failure
    | aliasOf number => exact .failure
  | succ depth ih =>
    rw [Node.toJson]
    refine Gives.trivial.bind fun node _ => ?_
    cases node with
    | scalar p style text => exact gives_scalar p.tag style text
    | sequence p items =>
      dsimp only
      split_ifs
      · exact .failure
      · exact (Gives.mapM ih items).bind fun _ each => .pure (.array each)
    | mapping p entries =>
      dsimp only
      split_ifs
      · exact .failure
      · have entry (pair : Node × Node) : Gives (do
            let name ← pair.1.keyText
            return (name, ← pair.2.toJson depth)) fun entry => entry.2.HasDistinctKeys :=
          Gives.trivial.bind fun _ _ => (ih pair.2).bind fun _ whole => .pure whole
        refine (Gives.mapM entry entries).bind fun values each => .pure ?_
        exact .object (Entries.nodup_keys_ofList values) (Entries.forall_mem_ofList each)
    | aliasOf number => exact .failure

/-- A value that is read has distinct keys. -/
theorem hasDistinctKeys_of_parseJson {text : String} {value : Json}
    (h : parseJson text = some value) : value.HasDistinctKeys := by
  obtain ⟨root?, -, h⟩ := Option.bind_eq_some_iff.mp h
  cases root? with
  | none =>
    cases h
    exact .null
  | some root =>
    obtain ⟨⟨value, s⟩, ran, rfl⟩ := Option.map_eq_some_iff.mp h
    exact gives_toJson 128 root _ value s ran

end Yaml

/-! ### Expanding references -/

namespace Json.HasDistinctKeys

variable {value found : Json}

theorem step? (distinct : value.HasDistinctKeys) {step : String}
    (h : value.step? step = some found) : found.HasDistinctKeys := by
  cases distinct with
  | object _ each =>
    obtain ⟨before, after, rfl, -⟩ := List.lookup_eq_some_iff.mp h
    exact each (step, found) (by simp)
  | array each =>
    obtain ⟨index, -, h⟩ := Option.bind_eq_some_iff.mp h
    exact each found (List.mem_of_getElem? h)
  | _ => cases h

theorem at? (distinct : value.HasDistinctKeys) {steps : List String}
    (h : value.at? steps = some found) : found.HasDistinctKeys := by
  induction steps generalizing value with
  | nil =>
    obtain rfl := Option.some.inj h
    exact distinct
  | cons step steps ih =>
    obtain ⟨next, stepped, h⟩ := Option.bind_eq_some_iff.mp h
    exact ih (distinct.step? stepped) h

end Json.HasDistinctKeys

namespace Reference

variable {document value result : Json}

theorem ExpandsEntries.keys_eq : ∀ {entries values : List (String × Json)},
    ExpandsEntries document entries values → Entries.keys values = Entries.keys entries
  | _, _, .nil => rfl
  | _, _, .cons _ tail => congrArg (_ :: ·) tail.keys_eq

mutual

theorem Expands.hasDistinctKeys (whole : document.HasDistinctKeys) :
    ∀ {value result : Json}, Expands document value result → value.HasDistinctKeys →
      result.HasDistinctKeys
  | _, _, .null, _ => .null
  | _, _, .bool b, _ => .bool b
  | _, _, .number n, _ => .number n
  | _, _, .string s, _ => .string s
  | _, _, .array expands, .array each => .array (expands.hasDistinctKeys whole each)
  | _, _, .object _ expands, .object distinct each =>
    .object (expands.keys_eq ▸ distinct) (expands.hasDistinctKeys whole each)
  | _, _, .reference _ ⟨_, _, _, _, located⟩ expands, _ =>
    expands.hasDistinctKeys whole (whole.at? located)

theorem ExpandsItems.hasDistinctKeys (whole : document.HasDistinctKeys) :
    ∀ {items values : List Json}, ExpandsItems document items values →
      (∀ item ∈ items, item.HasDistinctKeys) → ∀ value ∈ values, value.HasDistinctKeys
  | _, _, .nil, _ => List.forall_mem_nil _
  | _, _, .cons head tail, each =>
    List.forall_mem_cons.mpr ⟨head.hasDistinctKeys whole (List.forall_mem_cons.mp each).1,
      tail.hasDistinctKeys whole (List.forall_mem_cons.mp each).2⟩

theorem ExpandsEntries.hasDistinctKeys (whole : document.HasDistinctKeys) :
    ∀ {entries values : List (String × Json)}, ExpandsEntries document entries values →
      (∀ entry ∈ entries, entry.2.HasDistinctKeys) → ∀ entry ∈ values, entry.2.HasDistinctKeys
  | _, _, .nil, _ => List.forall_mem_nil _
  | _, _, .cons head tail, each =>
    List.forall_mem_cons.mpr ⟨head.hasDistinctKeys whole (List.forall_mem_cons.mp each).1,
      tail.hasDistinctKeys whole (List.forall_mem_cons.mp each).2⟩

end

end Reference

theorem Json.hasDistinctKeys_of_expanded {document result : Json}
    (distinct : document.HasDistinctKeys) (expanded : document.expanded = .ok result) :
    result.HasDistinctKeys := by
  have expands : Reference.Expands document document result :=
    (Reference.expand_eq_ok_iff (List.Subset.refl _)).mp expanded
  exact expands.hasDistinctKeys distinct distinct

/-! ### Decoding -/

namespace Decoding

open Outcome

variable {α σ : Type} {decode : Json → Decoded α} {post : α → Prop}

/-- Whatever the decoder gives for a value with distinct keys has the property. -/
def Yields (decode : Json → Decoded α) (post : α → Prop) : Prop :=
  ∀ value : Json, value.HasDistinctKeys → ∀ a, decode value = .ok a → post a

theorem Yields.trivial : Yields decode fun _ => True :=
  fun _ _ _ _ => True.intro

theorem Yields.optional (yields : Yields decode post) :
    Yields (optional decode) fun a? => ∀ a ∈ a?, post a := by
  intro value distinct a? h
  unfold Decoding.optional at h
  split at h
  · obtain rfl := Except.ok.inj h
    exact nofun
  · obtain ⟨a, decoded, rfl⟩ := map_eq_ok_iff.mp h
    rintro _ ⟨⟩
    exact yields value distinct a decoded

theorem map_fst_entriesOf {entries : List (String × Json)} {results : List (String × α)}
    (h : entriesOf decode entries = .ok results) :
    results.map Prod.fst = Entries.keys entries := by
  induction entries generalizing results with
  | nil =>
    obtain rfl := Except.ok.inj h
    rfl
  | cons entry rest ih =>
    obtain ⟨a, -, h⟩ := bind_eq_ok_iff.mp h
    obtain ⟨others, decoded, h⟩ := bind_eq_ok_iff.mp h
    obtain rfl := Except.ok.inj h
    rw [List.map_cons, ih decoded, Entries.keys_cons]

theorem Yields.entriesOf (yields : Yields decode post) {entries : List (String × Json)}
    {results : List (String × α)} (each : ∀ entry ∈ entries, entry.2.HasDistinctKeys)
    (h : entriesOf decode entries = .ok results) : ∀ result ∈ results, post result.2 := by
  induction entries generalizing results with
  | nil =>
    obtain rfl := Except.ok.inj h
    exact List.forall_mem_nil _
  | cons entry rest ih =>
    obtain ⟨first, others⟩ := List.forall_mem_cons.mp each
    obtain ⟨a, decodedFirst, h⟩ := bind_eq_ok_iff.mp h
    obtain ⟨results, decoded, h⟩ := bind_eq_ok_iff.mp h
    obtain rfl := Except.ok.inj h
    have whole : post a := yields entry.2 first a (below_eq_ok_iff.mp decodedFirst)
    exact List.forall_mem_cons.mpr ⟨whole, ih others decoded⟩

/-- The entries that a map is decoded to have its keys. -/
theorem Yields.mapOf (yields : Yields decode post) :
    Yields (mapOf decode) fun entries =>
      (entries.map Prod.fst).Nodup ∧ ∀ entry ∈ entries, post entry.2 := by
  intro value distinct results h
  cases distinct with
  | object distinct each => exact ⟨map_fst_entriesOf h ▸ distinct, yields.entriesOf each h⟩
  | _ => cases h

section Record

variable {fields : List (Field σ)} {post : σ → Prop}
  (keeps : ∀ field ∈ fields, ∀ state, post state → Yields (field.enter · state) post)

include keeps

theorem Yields.enterEntries {entries : List (String × Json)} {state result : σ}
    (each : ∀ entry ∈ entries, entry.2.HasDistinctKeys) (before : post state)
    (h : enterEntries fields entries state = .ok result) : post result := by
  induction entries generalizing state with
  | nil =>
    obtain rfl := Except.ok.inj h
    exact before
  | cons entry rest ih =>
    obtain ⟨first, others⟩ := List.forall_mem_cons.mp each
    rw [Decoding.enterEntries] at h
    split at h
    · exact ih others before h
    · next field found =>
      obtain ⟨next, entered, h⟩ := bind_eq_ok_iff.mp h
      have among : field ∈ fields := List.mem_of_find?_eq_some found
      have after : post next :=
        keeps field among state before entry.2 first next (below_eq_ok_iff.mp entered)
      exact ih others after h

theorem Yields.enterItems {n : Nat} {items : List Json} {state result : σ}
    (each : ∀ item ∈ items, item.HasDistinctKeys) (before : post state)
    (h : enterItems fields n items state = .ok result) : post result := by
  induction items generalizing fields n state with
  | nil =>
    cases fields <;> obtain rfl := Except.ok.inj h <;> exact before
  | cons item rest ih =>
    obtain ⟨first, others⟩ := List.forall_mem_cons.mp each
    cases fields with
    | nil => cases h
    | cons field fields =>
      obtain ⟨keepsFirst, keepsOthers⟩ := List.forall_mem_cons.mp keeps
      obtain ⟨next, entered, h⟩ := bind_eq_ok_iff.mp h
      have after : post next :=
        keepsFirst state before item first next (below_eq_ok_iff.mp entered)
      exact ih keepsOthers others after h

/-- What each field keeps holds of the whole record. -/
theorem Yields.record {name : String} {start : σ} (first : post start) :
    Yields (record name fields start) post := by
  intro value distinct result h
  cases distinct with
  | object _ each => exact enterEntries keeps each first h
  | array each => exact enterItems keeps each first h
  | _ => cases h

end Record

theorem Yields.field {name : String} {set : α → σ → σ} {post' : σ → Prop}
    (yields : Yields decode post) (keeps : ∀ a state, post a → post' state → post' (set a state)) :
    ∀ state, post' state → Yields ((field name decode set).enter · state) post' := by
  intro state before value distinct result h
  obtain ⟨a, decoded, rfl⟩ := map_eq_ok_iff.mp h
  exact keeps a state (yields value distinct a decoded) before

end Decoding

/-- No method of the path is described twice, and no answer of a method. -/
structure PathItem.HasDistinctKeys (item : PathItem) : Prop where
  methods : (item.map Prod.fst).Nodup
  statuses : ∀ entry ∈ item, (entry.2.responses.map Prod.fst).Nodup

/-- No path is described twice, and no named schema; and nothing behind a path. -/
structure Document.HasDistinctKeys (document : Document) : Prop where
  templates : (document.paths.map Prod.fst).Nodup
  items : ∀ entry ∈ document.paths, entry.2.HasDistinctKeys
  schemas : (document.schemas.map Prod.fst).Nodup

section Documents

open Decoding Outcome

theorem Operation.yields_decode :
    Yields Operation.decode fun op => (op.responses.map Prod.fst).Nodup := by
  refine .record (List.forall_mem_cons.mpr ⟨?_, List.forall_mem_singleton.mpr ?_⟩) List.nodup_nil
  · exact .field .trivial fun _ _ _ before => before
  · exact .field (.mapOf .trivial) fun _ _ given _ => given.1

theorem Method.text_of_ofText? {text : String} {method : Method}
    (named : ofText? text = some method) : method.text = text := by
  rw [ofText?] at named
  have found := List.find?_some named
  exact beq_iff_eq.mp found

/-- The operations of a path item are those under the keys that name a method. -/
theorem PathItem.map_fst_decodeEntries {entries : List (String × Json)} {item : PathItem}
    (h : decodeEntries entries = .ok item) :
    item.map Prod.fst = (Entries.keys entries).filterMap Method.ofText? := by
  induction entries generalizing item with
  | nil =>
    obtain rfl := Except.ok.inj h
    rfl
  | cons entry rest ih =>
    rw [decodeEntries] at h
    rw [Entries.keys_cons]
    split at h
    · next none =>
      rw [List.filterMap_cons_none none, ih h]
    · next method named =>
      obtain ⟨op, -, h⟩ := bind_eq_ok_iff.mp h
      obtain ⟨others, decoded, h⟩ := bind_eq_ok_iff.mp h
      obtain rfl := Except.ok.inj h
      rw [List.filterMap_cons_some named, List.map_cons, ih decoded]

theorem PathItem.nodup_statuses_of_decodeEntries {entries : List (String × Json)} {item : PathItem}
    (each : ∀ entry ∈ entries, entry.2.HasDistinctKeys) (h : decodeEntries entries = .ok item) :
    ∀ entry ∈ item, (entry.2.responses.map Prod.fst).Nodup := by
  induction entries generalizing item with
  | nil =>
    obtain rfl := Except.ok.inj h
    exact List.forall_mem_nil _
  | cons entry rest ih =>
    obtain ⟨first, others⟩ := List.forall_mem_cons.mp each
    rw [decodeEntries] at h
    split at h
    · exact ih others h
    · obtain ⟨op, decodedFirst, h⟩ := bind_eq_ok_iff.mp h
      obtain ⟨rest, decoded, h⟩ := bind_eq_ok_iff.mp h
      obtain rfl := Except.ok.inj h
      have whole : (op.responses.map Prod.fst).Nodup :=
        Operation.yields_decode entry.2 first op (below_eq_ok_iff.mp decodedFirst)
      exact List.forall_mem_cons.mpr ⟨whole, ih others decoded⟩

theorem PathItem.yields_decode : Yields PathItem.decode PathItem.HasDistinctKeys := by
  intro value distinct item h
  cases distinct with
  | object distinct each =>
    refine ⟨?_, nodup_statuses_of_decodeEntries each h⟩
    rw [map_fst_decodeEntries h]
    -- a method is named by one text only
    refine distinct.filterMap fun text text' method named named' => ?_
    rw [← Method.text_of_ofText? named, ← Method.text_of_ofText? named']
  | _ => cases h

theorem Document.yields_decode : Yields Document.decode Document.HasDistinctKeys := by
  have components : Yields decodeComponents fun schemas => (schemas.map Prod.fst).Nodup := by
    refine .record (List.forall_mem_singleton.mpr ?_) List.nodup_nil
    exact .field (.mapOf .trivial) fun _ _ given _ => given.1
  refine .record ?_ ⟨List.nodup_nil, List.forall_mem_nil _, List.nodup_nil⟩
  refine List.forall_mem_cons.mpr ⟨?_, List.forall_mem_cons.mpr ⟨?_,
    List.forall_mem_singleton.mpr ?_⟩⟩
  · exact .field .trivial fun _ _ _ before => ⟨before.templates, before.items, before.schemas⟩
  · exact .field (.mapOf PathItem.yields_decode) fun _ _ given before =>
      ⟨given.1, given.2, before.schemas⟩
  · refine .field components.optional fun schemas? _ given before =>
      ⟨before.templates, before.items, ?_⟩
    cases schemas? with
    | none => exact List.nodup_nil
    | some schemas => exact given schemas rfl

/-- In a document that was loaded nothing is described twice. -/
theorem Document.hasDistinctKeys_of_load {text : String} {document : Document}
    (loaded : Document.load text = .ok document) : document.HasDistinctKeys := by
  unfold Document.load at loaded
  split at loaded
  · next value parsed =>
    obtain ⟨whole, expanded, loaded⟩ := bind_eq_ok_iff.mp loaded
    have distinct : whole.HasDistinctKeys := Json.hasDistinctKeys_of_expanded
      (Yaml.hasDistinctKeys_of_parseJson parsed) (mapError_eq_ok_iff.mp expanded)
    exact yields_decode whole distinct document (mapError_eq_ok_iff.mp loaded)
  · cases loaded

end Documents

end ApiTypes
