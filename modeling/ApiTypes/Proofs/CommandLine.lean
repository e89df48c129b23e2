import ApiTypes.CommandLine
import Mathlib.Data.List.Nodup
import Mathlib.Data.List.TakeWhile

/-!
# Spellings of a command line

A parameter can be given by its long or its short name, with its value joined to the name or in an
argument of its own. The spelling makes no difference, and neither does the order: what is read
are the values that were given.

## Main definitions

* `CommandLine.Spells` — the ways to give a value to a parameter
* `CommandLine.Spelled` — arguments that give distinct parameters, and the switch for verbose
  notices at most once

## Main results

* `CommandLine.parse_of_spelled` — arguments that give values are read as these values
* `CommandLine.parse_eq_of_spelled` — arguments that give the same values are read alike
-/

namespace ApiTypes.CommandLine

/-- The argument is read as a value, and not as a name. -/
def IsPlain (argument : String) : Prop :=
  argument = "-" ∨ argument.toList.head? ≠ some '-'

/-- The arguments give the value to the parameter. -/
inductive Spells : Parameter → String → List String → Prop
  | unnamed {value : String} (plain : IsPlain value) : Spells .unnamed value [value]
  | joined {parameter : Parameter} {name value : String}
      (named : Name.ofLong? name = some (.parameter parameter)) :
      Spells parameter value ["--" ++ name ++ "=" ++ value]
  | apart {parameter : Parameter} {name value : String}
      (named : Name.ofLong? name = some (.parameter parameter)) (plain : IsPlain value) :
      Spells parameter value ["--" ++ name, value]
  | shortJoined {parameter : Parameter} {c : Char} {value : String}
      (named : Name.ofShort? c = some (.parameter parameter)) :
      Spells parameter value [String.ofList ('-' :: c :: '=' :: value.toList)]
  | shortDirect {parameter : Parameter} {c d : Char} {rest : List Char}
      (named : Name.ofShort? c = some (.parameter parameter)) (ne : d ≠ '=') :
      Spells parameter (String.ofList (d :: rest)) [String.ofList ('-' :: c :: d :: rest)]
  | shortApart {parameter : Parameter} {c : Char} {value : String}
      (named : Name.ofShort? c = some (.parameter parameter)) (plain : IsPlain value) :
      Spells parameter value [String.ofList ['-', c], value]

/-- The arguments give these parameters with their values, and ask for verbose notices or not. -/
inductive Spelled : List (Parameter × String) → Bool → List String → Prop
  | nil : Spelled [] false []
  | parameter {given : List (Parameter × String)} {isVerbose : Bool}
      {before arguments : List String} {parameter : Parameter} {value : String}
      (earlier : Spelled given isVerbose before) (spells : Spells parameter value arguments)
      (fresh : parameter ∉ given.map Prod.fst)
      (admitted : value = "" → parameter.admitsEmpty = true) :
      Spelled (given ++ [(parameter, value)]) isVerbose (before ++ arguments)
  | verbose {given : List (Parameter × String)} {before : List String} {argument : String}
      (earlier : Spelled given false before) (spells : argument ∈ ["--verbose", "-v"]) :
      Spelled given true (before ++ [argument])

namespace Progress

variable {p : Progress} {given : List (Parameter × String)} {isVerbose : Bool}
  {parameter : Parameter} {value argument : String}

/-- Once what is pending is entered, these parameters have been given. Names can still be read. -/
def Settled (p : Progress) (given : List (Parameter × String)) (isVerbose : Bool) : Prop :=
  p.onlyUnnamed = false ∧ p.settle = .ok { given, isVerbose }

/-! ### Entering parameters -/

theorem any_fst_eq_false (fresh : parameter ∉ given.map Prod.fst) :
    given.any (·.1 == parameter) = false := by
  rw [List.any_eq_false]
  intro entry member same
  exact fresh (List.mem_map.mpr ⟨entry, member, eq_of_beq same⟩)

theorem enter_eq_ok (fresh : parameter ∉ p.given.map Prod.fst)
    (admitted : value = "" → parameter.admitsEmpty = true) :
    p.enter parameter value = .ok { p with given := p.given ++ [(parameter, value)] } := by
  have fits : ¬ (value = "" ∧ ¬ parameter.admitsEmpty) := fun ⟨empty, no⟩ => no (admitted empty)
  rw [enter, any_fst_eq_false fresh, if_neg fits]
  rfl

theorem given_of_enter_eq_ok {next : Progress} (entered : p.enter parameter value = .ok next) :
    next.given = p.given ++ [(parameter, value)] := by
  unfold enter at entered
  split at entered
  · cases entered
  · split at entered
    · cases entered
    · obtain rfl := Except.ok.inj entered
      rfl

namespace Settled

/-- What is pending counts as given, so it is not the unnamed argument unless that is given. -/
theorem hasUnnamed_eq_false (settled : p.Settled given isVerbose)
    (fresh : .unnamed ∉ given.map Prod.fst) : p.hasUnnamed = false := by
  obtain ⟨-, settles⟩ := settled
  unfold settle at settles
  rw [hasUnnamed]
  cases pending : p.pending with
  | none =>
    rw [pending] at settles
    obtain rfl := Except.ok.inj settles
    simp [any_fst_eq_false fresh]
  | some waiting =>
    obtain ⟨parameter, value?⟩ := waiting
    rw [pending] at settles
    cases value? with
    | none => cases settles
    | some value =>
      have all : given = p.given ++ [(parameter, value)] := given_of_enter_eq_ok settles
      subst all
      simp only [List.map_append, List.mem_append, not_or] at fresh
      have other : (parameter == Parameter.unnamed) = false := by
        refine beq_false_of_ne fun same => fresh.2 ?_
        simp [same]
      simp [any_fst_eq_false fresh.1, other]

theorem begin_some (settled : p.Settled given isVerbose) (fresh : parameter ∉ given.map Prod.fst)
    (admitted : value = "" → parameter.admitsEmpty = true) :
    p.begin parameter (some value) =
      .ok { given := given ++ [(parameter, value)], isVerbose } := by
  rw [begin, settled.2]
  exact enter_eq_ok fresh admitted

theorem begin_none (settled : p.Settled given isVerbose) :
    p.begin parameter none = .ok { given, isVerbose, pending := some (parameter, none) } := by
  rw [begin, settled.2]
  rfl

/-- Nothing is pending any more. -/
theorem of_given (given : List (Parameter × String)) (isVerbose : Bool) :
    Settled { given, isVerbose } given isVerbose :=
  ⟨rfl, rfl⟩

/-- A parameter is pending with its value. -/
theorem of_pending (fresh : parameter ∉ given.map Prod.fst)
    (admitted : value = "" → parameter.admitsEmpty = true) :
    Settled { given, isVerbose, pending := some (parameter, some value) }
      (given ++ [(parameter, value)]) isVerbose :=
  ⟨rfl, enter_eq_ok fresh admitted⟩

end Settled

/-! ### Reading names and values -/

theorem read_of_isPlain (named : p.onlyUnnamed = false) (plain : IsPlain argument) :
    p.read argument = p.plain argument := by
  unfold read
  rw [named]
  obtain rfl | other := plain
  · rfl
  · split
    · contradiction
    · split
      · next is => simp [is] at other
      · next is => simp [is] at other
      · next is => simp [is] at other
      · rfl

theorem read_of_dashes {name : List Char} (named : p.onlyUnnamed = false)
    (is : argument.toList = '-' :: '-' :: name) (ne : name ≠ []) :
    p.read argument = p.long name := by
  unfold read
  rw [named, is]
  cases name with
  | nil => contradiction
  | cons c rest => rfl

theorem read_of_dash {c : Char} {rest : List Char} (named : p.onlyUnnamed = false)
    (is : argument.toList = '-' :: c :: rest) (ne : c ≠ '-') :
    p.read argument = p.short (c :: rest) := by
  unfold read
  rw [named, is]
  simp only [Bool.false_eq_true, if_false]
  split
  · next same =>
    cases same
    contradiction
  · next same =>
    cases same
    contradiction
  · next same =>
    cases same
    rfl
  · next no => exact absurd rfl (no c rest)

theorem name_of_ofLong? {name : String} {n : Name} (named : Name.ofLong? name = some n) :
    name.toList ≠ [] ∧ '=' ∉ name.toList := by
  unfold Name.ofLong? at named
  split at named
  case h_8 => cases named
  all_goals decide

theorem ne_dash_of_ofShort? {c : Char} {n : Name} (named : Name.ofShort? c = some n) : c ≠ '-' := by
  rintro rfl
  cases named

theorem ne_equals_of_ofLong? {name : String} {n : Name} (named : Name.ofLong? name = some n) :
    ∀ c ∈ name.toList, (c != '=') = true := by
  intro c member
  rw [bne_iff_ne]
  rintro rfl
  exact (name_of_ofLong? named).2 member

theorem long_joined {name : String} (named : Name.ofLong? name = some (.parameter parameter)) :
    p.long (name.toList ++ '=' :: value.toList) = p.begin parameter (some value) := by
  have plain := ne_equals_of_ofLong? named
  rw [long, List.takeWhile_append_of_pos plain, List.dropWhile_append_of_pos plain]
  simp [named]

theorem long_apart {name : String} (named : Name.ofLong? name = some (.parameter parameter)) :
    p.long name.toList = p.begin parameter none := by
  have plain := ne_equals_of_ofLong? named
  rw [long, List.takeWhile_eq_self_iff.mpr plain, List.dropWhile_eq_nil_iff.mpr plain]
  simp [named]

section Short

variable {c d : Char} {rest : List Char} (named : Name.ofShort? c = some (.parameter parameter))
include named

theorem short_joined : p.short (c :: '=' :: value.toList) = p.begin parameter (some value) := by
  rw [short, named]
  simp

theorem short_direct (ne : d ≠ '=') :
    p.short (c :: d :: rest) = p.begin parameter (some (String.ofList (d :: rest))) := by
  rw [short, named]
  dsimp only
  split
  · contradiction
  · next is => exact absurd (List.cons.inj is).1 ne
  · rfl

theorem short_apart : p.short [c] = p.begin parameter none := by
  rw [short, named]

end Short

theorem long_verbose : p.long "verbose".toList = p.throwSwitch .verbose := rfl

theorem short_verbose : p.short ['v'] = p.throwSwitch .verbose >>= (short · []) := rfl

/-! ### Steps of a spelling -/

theorem foldlM_read_singleton (p : Progress) (argument : String) :
    [argument].foldlM read p = p.read argument := by
  rw [List.foldlM_cons]
  exact bind_pure _

theorem foldlM_read_pair (p : Progress) (name value : String) :
    [name, value].foldlM read p = p.read name >>= (read · value) := by
  rw [List.foldlM_cons]
  exact bind_congr (foldlM_read_singleton · value)

/-- A parameter that waits for its value takes it from the next argument. -/
theorem Settled.read_value (settled : p.Settled given isVerbose)
    (fresh : parameter ∉ given.map Prod.fst)
    (admitted : value = "" → parameter.admitsEmpty = true) (plain : IsPlain value) :
    ∃ next, (p.begin parameter none >>= (read · value)) = .ok next ∧
      next.Settled (given ++ [(parameter, value)]) isVerbose := by
  refine ⟨_, ?_, .of_pending fresh admitted⟩
  rw [settled.begin_none]
  exact read_of_isPlain (p := { given, isVerbose, pending := some (parameter, none) }) rfl plain

theorem Settled.unnamed_eq_ok (settled : p.Settled given isVerbose)
    (fresh : .unnamed ∉ given.map Prod.fst) (argument : String) :
    p.unnamed argument = .ok { given, isVerbose, pending := some (.unnamed, some argument) } := by
  rw [unnamed, settled.hasUnnamed_eq_false fresh, settled.2]
  rfl

theorem Settled.plain_eq_unnamed (settled : p.Settled given isVerbose) (argument : String) :
    p.plain argument = p.unnamed argument := by
  have settles := settled.2
  unfold settle at settles
  unfold plain
  split
  · next is =>
    rw [is] at settles
    cases settles
  · rfl

/-- The arguments that give a parameter are read as its value. -/
theorem Settled.foldlM_of_spells {arguments : List String} (settled : p.Settled given isVerbose)
    (spells : Spells parameter value arguments) (fresh : parameter ∉ given.map Prod.fst)
    (admitted : value = "" → parameter.admitsEmpty = true) :
    ∃ next, arguments.foldlM read p = .ok next ∧
      next.Settled (given ++ [(parameter, value)]) isVerbose := by
  have named := settled.1
  have entered := settled.begin_some fresh admitted
  have waits := settled.read_value fresh admitted
  cases spells with
  | unnamed plain =>
    refine ⟨_, ?_, .of_pending fresh admitted⟩
    rw [foldlM_read_singleton, read_of_isPlain named plain, settled.plain_eq_unnamed,
      settled.unnamed_eq_ok fresh]
  | @joined _ name value long =>
    have is : ("--" ++ name ++ "=" ++ value).toList =
        '-' :: '-' :: (name.toList ++ '=' :: value.toList) := by simp
    refine ⟨_, ?_, .of_given _ _⟩
    rw [foldlM_read_singleton, read_of_dashes named is (by simp), long_joined long, entered]
  | @apart _ name value long plain =>
    have is : ("--" ++ name).toList = '-' :: '-' :: name.toList := by simp
    rw [foldlM_read_pair, read_of_dashes named is (name_of_ofLong? long).1, long_apart long]
    exact waits plain
  | @shortJoined _ c value short =>
    refine ⟨_, ?_, .of_given _ _⟩
    rw [foldlM_read_singleton, read_of_dash named String.toList_ofList (ne_dash_of_ofShort? short),
      short_joined short, entered]
  | @shortDirect _ c d rest short ne =>
    refine ⟨_, ?_, .of_given _ _⟩
    rw [foldlM_read_singleton, read_of_dash named String.toList_ofList (ne_dash_of_ofShort? short),
      short_direct short ne, entered]
  | @shortApart _ c value short plain =>
    rw [foldlM_read_pair, read_of_dash named String.toList_ofList (ne_dash_of_ofShort? short),
      short_apart short]
    exact waits plain

/-- The switch for verbose notices can be thrown once. -/
theorem Settled.foldlM_of_verbose (settled : p.Settled given false)
    (spells : argument ∈ ["--verbose", "-v"]) :
    ∃ next, [argument].foldlM read p = .ok next ∧ next.Settled given true := by
  have thrown : p.throwSwitch .verbose = .ok { given, isVerbose := true } := by
    rw [throwSwitch, settled.2]
    rfl
  refine ⟨_, ?_, .of_given _ _⟩
  rw [foldlM_read_singleton]
  simp only [List.mem_cons, List.not_mem_nil, or_false] at spells
  rcases spells with rfl | rfl
  · have is : "--verbose".toList = '-' :: '-' :: "verbose".toList := rfl
    rw [read_of_dashes settled.1 is (by decide), long_verbose, thrown]
  · have is : "-v".toList = ['-', 'v'] := rfl
    rw [read_of_dash settled.1 is (by decide), short_verbose, thrown]
    rfl

end Progress

/-! ### Whole command lines -/

variable {given : List (Parameter × String)} {isVerbose : Bool} {arguments : List String}

theorem Spelled.exists_settled (spelled : Spelled given isVerbose arguments) :
    ∃ p, arguments.foldlM Progress.read {} = .ok p ∧ p.Settled given isVerbose := by
  induction spelled with
  | nil => exact ⟨{}, rfl, .of_given [] false⟩
  | parameter earlier spells fresh admitted ih =>
    obtain ⟨p, read, settled⟩ := ih
    obtain ⟨next, read', settled'⟩ := settled.foldlM_of_spells spells fresh admitted
    refine ⟨next, ?_, settled'⟩
    rw [List.foldlM_append, read]
    exact read'
  | verbose earlier spells ih =>
    obtain ⟨p, read, settled⟩ := ih
    obtain ⟨next, read', settled'⟩ := settled.foldlM_of_verbose spells
    refine ⟨next, ?_, settled'⟩
    rw [List.foldlM_append, read]
    exact read'

theorem Spelled.nodup_keys (spelled : Spelled given isVerbose arguments) :
    (given.map Prod.fst).Nodup := by
  induction spelled with
  | nil => exact .nil
  | parameter earlier spells fresh admitted ih =>
    rw [List.map_append, List.map_singleton, ← List.concat_eq_append]
    exact List.Nodup.concat fresh ih
  | verbose earlier spells ih => exact ih

/-- The document is given once at most, by its name or without one. -/
theorem conflict?_eq_none (distinct : (given.map Prod.fst).Nodup)
    (one : .unnamed ∉ given.map Prod.fst ∨ .input ∉ given.map Prod.fst) :
    conflict? given = none := by
  unfold conflict?
  split
  · next first second rest are =>
    -- the two are distinct, and each of them is the unnamed argument or the named document
    have distinct := distinct.filter fun p => p == .unnamed || p == .input
    rw [are, List.nodup_cons] at distinct
    have chosen : ∀ p ∈ first :: second :: rest, p ∈ given.map Prod.fst ∧
        (p = .unnamed ∨ p = .input) := by
      intro p member
      rw [← are, List.mem_filter] at member
      simpa using member
    obtain ⟨inFirst, isFirst⟩ := chosen first List.mem_cons_self
    obtain ⟨inSecond, isSecond⟩ := chosen second (List.mem_cons_of_mem _ List.mem_cons_self)
    rcases isFirst with rfl | rfl <;> rcases isSecond with rfl | rfl
    · exact absurd List.mem_cons_self distinct.1
    · exact (one.elim (· inFirst) (· inSecond)).elim
    · exact (one.elim (· inSecond) (· inFirst)).elim
    · exact absurd List.mem_cons_self distinct.1
  · rfl

/-- Arguments that give parameters, in whatever spelling and order, are read as the values that
they give. -/
theorem parse_of_spelled (spelled : Spelled given isVerbose arguments)
    (one : .unnamed ∉ given.map Prod.fst ∨ .input ∉ given.map Prod.fst) :
    parse arguments = .ok {
      isVerbose
      input := (given.lookup .unnamed).or (given.lookup .input)
      config := given.lookup .config
      output := given.lookup .output
      nameFormat := given.lookup .nameFormat } := by
  obtain ⟨p, read, settled⟩ := spelled.exists_settled
  simp only [parse, read, settled.2, bind, Except.bind,
    conflict?_eq_none spelled.nodup_keys one]
  rfl

theorem lookup_eq_some_iff (distinct : (given.map Prod.fst).Nodup) {parameter : Parameter}
    {value : String} : given.lookup parameter = some value ↔ (parameter, value) ∈ given := by
  induction given with
  | nil => simp
  | cons entry rest ih =>
    obtain ⟨name, first⟩ := entry
    rw [List.map_cons, List.nodup_cons] at distinct
    rw [List.lookup_cons]
    by_cases same : parameter = name
    · subst same
      have once : (parameter, value) ∉ rest := fun member =>
        distinct.1 (List.mem_map.mpr ⟨_, member, rfl⟩)
      simp [once, eq_comm]
    · simp [beq_false_of_ne same, same, ih distinct.2]

/-- Two command lines that give the same values, each in its own spelling and order, are read
alike. -/
theorem parse_eq_of_spelled {given' : List (Parameter × String)} {arguments' : List String}
    (spelled : Spelled given isVerbose arguments) (spelled' : Spelled given' isVerbose arguments')
    (same : ∀ entry, entry ∈ given ↔ entry ∈ given')
    (one : .unnamed ∉ given.map Prod.fst ∨ .input ∉ given.map Prod.fst) :
    parse arguments = parse arguments' := by
  have lookups (parameter : Parameter) : given.lookup parameter = given'.lookup parameter := by
    ext value
    rw [lookup_eq_some_iff spelled.nodup_keys, lookup_eq_some_iff spelled'.nodup_keys, same]
  have keys (parameter : Parameter) :
      parameter ∈ given.map Prod.fst ↔ parameter ∈ given'.map Prod.fst := by
    simp only [List.mem_map, same]
  rw [keys, keys] at one
  rw [parse_of_spelled spelled (by rwa [keys, keys]), parse_of_spelled spelled' one]
  simp only [lookups]

/-- The value of a short name may stand apart, and the document last. -/
example : parse ["-o", "types.ts", "-v", "api.yaml"] = .ok ⟨true, some "api.yaml", none,
    some "types.ts", none⟩ := by
  rfl

end ApiTypes.CommandLine
