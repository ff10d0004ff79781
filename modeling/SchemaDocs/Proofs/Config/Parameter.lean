import SchemaDocs.Proofs.Config.Settings
import SchemaDocs.Proofs.Text.Separator
/-!
# Parameters, pair by pair

A parameter with a comma in it is one parameter and then another.  So what it leaves behind is told
by the last pair with each key, up to the first pair with something wrong in it.
-/

namespace SchemaDocs

/-! ## The last pair with a key -/

/-- The value of the last pair with a key. -/
def lastValue? (key : String) (pairs : List (List Char)) : Option String :=
  ((pairs.filter fun pair => '=' ∈ pair ∧ pairKey pair = key).getLast?).map pairValue

theorem lastValue?_append (key : String) (first rest : List (List Char)) :
    lastValue? key (first ++ rest) = (lastValue? key rest).or (lastValue? key first) := by
  rw [lastValue?, List.filter_append, List.getLast?_append, Option.map_or, lastValue?, lastValue?]

theorem lastValue?_eq_none {key : String} {pairs : List (List Char)}
    (h : ∀ pair ∈ pairs, pairKey pair ≠ key) : lastValue? key pairs = none := by
  have hnone : (pairs.filter fun pair => '=' ∈ pair ∧ pairKey pair = key) = [] := by
    rw [List.filter_eq_nil_iff]
    intro pair hpair
    simp [h pair hpair]
  rw [lastValue?, hnone]
  rfl

/-- With different keys, it does not matter which pairs come last. -/
theorem lastValue?_append_comm {first rest : List (List Char)}
    (h : ∀ x ∈ first, ∀ y ∈ rest, pairKey x ≠ pairKey y) (key : String) :
    lastValue? key (first ++ rest) = lastValue? key (rest ++ first) := by
  rw [lastValue?_append, lastValue?_append]
  by_cases hfirst : ∀ x ∈ first, pairKey x ≠ key
  · rw [lastValue?_eq_none hfirst, Option.or_none, Option.none_or]
  · obtain ⟨x, hx, rfl⟩ : ∃ x ∈ first, pairKey x = key := by simpa using hfirst
    rw [lastValue?_eq_none fun y hy => (h x hx y hy).symm, Option.or_none, Option.none_or]

namespace Config

/-- A configuration in which each thing is as the last pair with its key has it, or as it was. -/
def withPairs (config : Config) (pairs : List (List Char)) : Config where
  docsHost := ((lastValue? "docs_host" pairs).map (Text.onChars dropSlashes)).getD config.docsHost
  moduleSuffix := (lastValue? "module_suffix" pairs).getD config.moduleSuffix
  sourceFormat := (lastValue? "source_format" pairs).getD config.sourceFormat
  targetFormat := (lastValue? "target_format" pairs).getD config.targetFormat
  converter :=
    { config.converter with command := (lastValue? "pandoc" pairs).getD config.converter.command }

theorem withPairs_append (config : Config) (first rest : List (List Char)) :
    config.withPairs (first ++ rest) = (config.withPairs first).withPairs rest := by
  simp only [withPairs, lastValue?_append, Option.map_or, Option.getD_or]

theorem withPairs_append_comm {first rest : List (List Char)}
    (h : ∀ x ∈ first, ∀ y ∈ rest, pairKey x ≠ pairKey y) (config : Config) :
    config.withPairs (first ++ rest) = config.withPairs (rest ++ first) := by
  simp only [withPairs, lastValue?_append_comm h]

theorem put_eq_withPairs {pair : List Char} {setting : Setting}
    (h : Setting.ofPair? pair = some setting) (config : Config) :
    config.put setting = config.withPairs [pair] := by
  rw [Setting.ofPair?] at h
  split at h
  · rename_i hmark
    have hlast : ∀ key, lastValue? key [pair] =
        if pairKey pair = key then some (pairValue pair) else none := by
      intro key
      by_cases hkey : pairKey pair = key <;> simp [lastValue?, hmark, hkey]
    simp only [withPairs, hlast]
    rw [Setting.ofKey?.eq_def] at h
    split at h <;> cases h <;> rename_i hkey <;> simp [put, ConverterConfig.put, hkey]
  · cases h

/-! ## Pairs one after the other -/

theorem applyPairs_eq_withPairs {pairs : List (List Char)}
    (h : ∀ pair ∈ pairs, ParameterError.ofPair? pair = none) (config : Config) :
    config.applyPairs pairs = (.ok (), config.withPairs pairs) := by
  induction pairs generalizing config with
  | nil => rfl
  | cons pair pairs ih =>
      rw [List.forall_mem_cons] at h
      obtain ⟨setting, hsetting, happly⟩ := applyPair_of_good h.1 config
      rw [applyPairs, happly]
      dsimp only
      rw [ih h.2, put_eq_withPairs hsetting, ← withPairs_append, List.singleton_append]

/-- Pairs are applied one part after the other, up to a pair that is refused. -/
theorem applyPairs_append (config : Config) (first rest : List (List Char)) :
    config.applyPairs (first ++ rest) =
      match config.applyPairs first with
      | (.ok _, next) => next.applyPairs rest
      | failed => failed := by
  induction first generalizing config with
  | nil => rfl
  | cons pair first ih =>
      rw [List.cons_append, applyPairs, applyPairs]
      cases config.applyPair pair with
      | error fault => rfl
      | ok next => exact ih next

theorem applyPairs_eq_fault {before after : List (List Char)} {pair : List Char}
    {fault : ParameterError} (hbefore : ∀ pair ∈ before, ParameterError.ofPair? pair = none)
    (hpair : ParameterError.ofPair? pair = some fault) (config : Config) :
    config.applyPairs (before ++ pair :: after) = (.error fault, config.withPairs before) := by
  rw [applyPairs_append, applyPairs_eq_withPairs hbefore]
  dsimp only
  rw [applyPairs, applyPair_of_fault hpair]

theorem pairsOf_append (p q : String) : pairsOf (p ++ "," ++ q) = pairsOf p ++ pairsOf q := by
  have hchars : (p ++ "," ++ q).toList = p.toList ++ ',' :: q.toList := by
    simp [String.toList_append]
  rw [pairsOf, hchars, Text.splitAt_append, List.map_append, List.filter_append, pairsOf, pairsOf]

/-- Two good pairs with different keys can be swapped, whatever stands around them. -/
theorem applyPairs_swap {x y : List Char} (hx : ParameterError.ofPair? x = none)
    (hy : ParameterError.ofPair? y = none) (hkeys : pairKey x ≠ pairKey y) (config : Config)
    (front back : List (List Char)) :
    config.applyPairs (front ++ x :: y :: back) = config.applyPairs (front ++ y :: x :: back) := by
  rw [applyPairs_append, applyPairs_append config front (y :: x :: back)]
  rcases config.applyPairs front with ⟨_ | _, next⟩
  · rfl
  · have hsplit : ∀ a b : List Char, a :: b :: back = [a, b] ++ back := fun _ _ => rfl
    have hcomm : next.withPairs ([x] ++ [y]) = next.withPairs ([y] ++ [x]) :=
      withPairs_append_comm (by simpa using hkeys) next
    have hfirst : next.applyPairs [x, y] = (.ok (), next.withPairs [x, y]) :=
      applyPairs_eq_withPairs (by simp [hx, hy]) next
    have hrest : next.applyPairs [y, x] = (.ok (), next.withPairs [y, x]) :=
      applyPairs_eq_withPairs (by simp [hx, hy]) next
    dsimp only
    rw [hsplit x y, hsplit y x, applyPairs_append, applyPairs_append, hfirst, hrest]
    exact congrArg (applyPairs · back) hcomm

/-- Either no pair is wrong and all of them count, or those before the first wrong one do. -/
theorem applyParameter_cases (config : Config) (parameter : String) :
    ((∀ pair ∈ pairsOf parameter, ParameterError.ofPair? pair = none) ∧
      config.applyParameter parameter = (.ok (), config.withPairs (pairsOf parameter))) ∨
    ∃ before pair after fault, pairsOf parameter = before ++ pair :: after ∧
      (∀ good ∈ before, ParameterError.ofPair? good = none) ∧
      ParameterError.ofPair? pair = some fault ∧
      config.applyPairs before = (.ok (), config.withPairs before) ∧
      config.applyParameter parameter = (.error fault, config.withPairs before) := by
  cases hfault : (pairsOf parameter).findSome? ParameterError.ofPair? with
  | none =>
      have hgood := List.findSome?_eq_none_iff.1 hfault
      exact .inl ⟨hgood, applyPairs_eq_withPairs hgood config⟩
  | some fault =>
      obtain ⟨before, pair, after, hpairs, hpair, hbefore⟩ := List.findSome?_eq_some_iff.1 hfault
      refine .inr ⟨before, pair, after, fault, hpairs, hbefore, hpair,
        applyPairs_eq_withPairs hbefore config, ?_⟩
      rw [applyParameter, hpairs]
      exact applyPairs_eq_fault hbefore hpair config

/-- A parameter with a comma in it does what its two parts do one after the other.  Each thing is
left as the last pair with its key has it, or as it was, and pairs with different keys can be
swapped.  A pair with something wrong in it ends the run with its error and with what the pairs
before it have left. -/
theorem last_pairs_count_up_to_first_fault (config : Config) :
    (∀ p q : String, config.applyParameter (p ++ "," ++ q) =
      match config.applyParameter p with
      | (.ok _, next) => next.applyParameter q
      | failed => failed) ∧
    (∀ parameter : String,
      (((∀ pair ∈ pairsOf parameter, ParameterError.ofPair? pair = none) ∧
          config.applyParameter parameter = (.ok (), config.withPairs (pairsOf parameter))) ∨
        ∃ before pair after fault, pairsOf parameter = before ++ pair :: after ∧
          (∀ good ∈ before, ParameterError.ofPair? good = none) ∧
          ParameterError.ofPair? pair = some fault ∧
          config.applyPairs before = (.ok (), config.withPairs before) ∧
          config.applyParameter parameter = (.error fault, config.withPairs before)) ∧
      (config.applyParameter parameter).2.converter.args = config.converter.args ∧
      (config.applyParameter parameter).2.converter.timeoutSecs = config.converter.timeoutSecs) ∧
    ∀ (parameter swapped : String) (front back : List (List Char)) (x y : List Char),
      pairsOf parameter = front ++ x :: y :: back → pairsOf swapped = front ++ y :: x :: back →
      ParameterError.ofPair? x = none → ParameterError.ofPair? y = none →
      pairKey x ≠ pairKey y →
      config.applyParameter parameter = config.applyParameter swapped := by
  refine ⟨fun p q => ?_, fun parameter => ⟨applyParameter_cases config parameter, ?_⟩, ?_⟩
  · rw [applyParameter, pairsOf_append]
    exact applyPairs_append config (pairsOf p) (pairsOf q)
  · rcases applyParameter_cases config parameter with ⟨-, hrun⟩ | ⟨_, _, _, _, -, -, -, -, hrun⟩
    all_goals
      rw [hrun]
      exact ⟨rfl, rfl⟩
  · intro parameter swapped front back x y hpairs hswapped hx hy hkeys
    rw [applyParameter, applyParameter, hpairs, hswapped]
    exact applyPairs_swap hx hy hkeys config front back

/-- Blanks, an empty pair, a key that comes twice, an equals sign in a value, slashes after a host
and a pair that is refused. -/
theorem host_and_command_swapped_before_fault :
    let config : Config := { converter := { args := ["-s"] } }
    let told : Config :=
      { docsHost := "https://a.b", converter := { command := "x=y", args := ["-s"] } }
    let parameter := "pandoc=z,, docs_host = https://a.b// ,pandoc = x=y,oops"
    let swapped := "pandoc=z,pandoc = x=y,docs_host = https://a.b//,oops"
    config.applyParameter parameter = (.error (.missingEquals "oops"), told) ∧
      config.applyParameter swapped = (.error (.missingEquals "oops"), told) := by
  refine ⟨?_, rfl⟩
  have hswap := (last_pairs_count_up_to_first_fault { converter := { args := ["-s"] } }).2.2
    "pandoc=z,, docs_host = https://a.b// ,pandoc = x=y,oops"
    "pandoc=z,pandoc = x=y,docs_host = https://a.b//,oops"
    ["pandoc=z".toList] ["oops".toList] "docs_host = https://a.b//".toList "pandoc = x=y".toList
  exact (hswap (by decide) (by decide) (by decide) (by decide) (by decide)).trans rfl

end Config

end SchemaDocs
