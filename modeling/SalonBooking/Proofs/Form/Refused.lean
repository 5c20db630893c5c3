import SalonBooking.Proofs.Form.Carriers
import SalonBooking.Proofs.Json.RoundTrip

/-!
# What no form is made from

Of everything that a source may hold only what is no object is refused.  Two
things depend on the machine: a text whose parts stand too deep inside each
other is given up, and an integer with too many digits cannot take the place of
a text.  The text that is given up may be the source itself or the configuration
in a record; where another text in the place of a configuration is no JSON the
record counts as bare.

* `normalize_eq_error_iff`: each error and what causes it.
* `refused_iff`, `normalize_eq_tooDeep_iff`, `normalize_eq_integerTooLong_iff`: what is
  refused, given up, and stopped at an integer; only what is refused is told
  (`untold_iff`).
* `read_brackets`: a text is given up as soon as it opens too many brackets.
-/

namespace SalonBooking

namespace Source

/-- Whether there is an object to make a form from. -/
def HoldsObject (limits : Limits) (source : Source) : Prop :=
  ∃ v, source.held limits = .ok v ∧ v.isObject = true

/-- Whether a source is an object with a text in the place of its configuration that is given up. -/
def HoldsTooDeep (limits : Limits) (source : Source) : Prop :=
  ∃ v s, source.held limits = .ok v ∧ v.isObject = true ∧ v.get "config" = .str s ∧
    Json.read limits s = .error .tooDeep

/-- Whether a text is given up because its parts stand too deep inside each other. -/
def IsGivenUp (limits : Limits) (source : Source) : Prop :=
  source.held limits = .error .tooDeep ∨ source.HoldsTooDeep limits

/-- Whether an integer with too many digits stands in the place of a text that is taken. -/
def HoldsTooLong (limits : Limits) (source : Source) : Prop :=
  ∃ form, StoredForm.ofSource limits source = .ok form ∧
    ∃ text ∈ form.texts, text.hasText limits = false

end Source

variable {limits : Limits} {source : Source} {e : ConfigError}

theorem inner_eq_error_iff {record : Json} :
    StoredForm.inner limits record = .error e ↔
      e = .tooDeep ∧ ∃ s, record.get "config" = .str s ∧ Json.read limits s = .error .tooDeep := by
  rw [StoredForm.inner]
  generalize record.get "config" = inside
  cases inside with
  | str s =>
    cases hread : Json.read limits s with
    | ok v => simp [hread]
    | error r => cases r <;> simp [hread, eq_comm]
  | _ => simp

/-- An object is read unless the configuration in it is given up. -/
theorem ofJson_eq_error_iff {v : Json} :
    StoredForm.ofJson limits v = .error e ↔
      v.isObject = false ∧ e = .notAnObject v.kindName ∨
        v.isObject = true ∧ e = .tooDeep ∧
          ∃ s, v.get "config" = .str s ∧ Json.read limits s = .error .tooDeep := by
  rw [StoredForm.ofJson]
  cases hobject : v.isObject with
  | false => simp [eq_comm]
  | true =>
    rw [if_pos rfl, StoredForm.ofObject, ← inner_eq_error_iff]
    cases StoredForm.inner limits v <;> simp [Except.map]

/-- A complete configuration is an object that is read as well. -/
theorem ofSource_eq_error_iff {v : Json} (hheld : source.held limits = .ok v) :
    StoredForm.ofSource limits source = .error e ↔ StoredForm.ofJson limits v = .error e := by
  cases source with
  | config c =>
    obtain rfl := Except.ok.inj hheld
    have hform : StoredForm.ofJson limits c.toJson = .ok ⟨c.toJson, c.toJson, .null⟩ := rfl
    rw [hform, StoredForm.ofSource]
    simp
  | value u => rw [ofSource_eq_ofText fun c h => Source.noConfusion h, hheld, StoredForm.ofText]
  | bytes b => rw [ofSource_eq_ofText fun c h => Source.noConfusion h, hheld, StoredForm.ofText]

/-- The errors of reading a source, each with its cause. -/
theorem ofSource_eq_error_cases :
    StoredForm.ofSource limits source = .error e ↔
      (∃ r, source.held limits = .error r ∧ e = .ofReadError r) ∨
        (∃ v, source.held limits = .ok v ∧ v.isObject = false ∧ e = .notAnObject v.kindName) ∨
          e = .tooDeep ∧ source.HoldsTooDeep limits := by
  cases hheld : source.held limits with
  | error r =>
    have hsource : ∀ c, source ≠ .config c := by
      rintro c rfl
      cases hheld
    rw [ofSource_eq_ofText hsource, hheld, StoredForm.ofText]
    constructor
    · intro h
      exact Or.inl ⟨r, rfl, (Except.error.inj h).symm⟩
    · rintro (⟨r', hr', rfl⟩ | ⟨v, hv, -⟩ | ⟨-, v, s, hv, -⟩)
      · cases hr'
        rfl
      · cases hv
      · cases hheld.symm.trans hv
  | ok v =>
    rw [ofSource_eq_error_iff hheld, ofJson_eq_error_iff]
    constructor
    · rintro (⟨hobject, rfl⟩ | ⟨hobject, rfl, s, hinside, hread⟩)
      · exact Or.inr (Or.inl ⟨v, rfl, hobject, rfl⟩)
      · exact Or.inr (Or.inr ⟨rfl, v, s, hheld, hobject, hinside, hread⟩)
    · rintro (⟨r, hr, -⟩ | ⟨w, hw, hobject, rfl⟩ | ⟨rfl, w, s, hw, hobject, hinside, hread⟩)
      · cases hr
      · cases hw
        exact Or.inl ⟨hobject, rfl⟩
      · cases hheld.symm.trans hw
        exact Or.inr ⟨hobject, rfl, s, hinside, hread⟩

theorem ofStored?_eq_error_iff {form : StoredForm} :
    FormConfig.ofStored? limits form = .error e ↔
      e = .integerTooLong ∧ ∃ text ∈ form.texts, text.hasText limits = false := by
  rw [FormConfig.ofStored?]
  split
  · rename_i htexts
    rw [List.all_eq_true] at htexts
    simp only [reduceCtorEq, false_iff, not_and]
    rintro - ⟨text, htext, hlong⟩
    rw [htexts text htext] at hlong
    cases hlong
  · rename_i htexts
    have hlong : ∃ text ∈ form.texts, text.hasText limits = false := by
      simpa only [Bool.not_eq_true] using List.all_eq_false.mp (Bool.not_eq_true _ ▸ htexts)
    constructor
    · intro h
      exact ⟨(Except.error.inj h).symm, hlong⟩
    · rintro ⟨rfl, -⟩
      rfl

/-- The errors of a source, each with its cause. -/
theorem normalize_eq_error_iff :
    normalize limits source = .error e ↔
      StoredForm.ofSource limits source = .error e ∨
        e = .integerTooLong ∧ source.HoldsTooLong limits := by
  rw [normalize, Source.HoldsTooLong]
  cases StoredForm.ofSource limits source with
  | error r => simp [Except.bind]
  | ok form => simp [Except.bind, ofStored?_eq_error_iff]

/-- What is given up. -/
theorem normalize_eq_tooDeep_iff :
    normalize limits source = .error .tooDeep ↔ source.IsGivenUp limits := by
  rw [normalize_eq_error_iff, ofSource_eq_error_cases, Source.IsGivenUp]
  constructor
  · rintro ((⟨r, hheld, hr⟩ | ⟨v, -, -, hv⟩ | ⟨-, h⟩) | ⟨hlong, -⟩)
    · cases r <;> first | exact Or.inl hheld | cases hr
    · cases hv
    · exact Or.inr h
    · cases hlong
  · rintro (hheld | h)
    · exact Or.inl (Or.inl ⟨_, hheld, rfl⟩)
    · exact Or.inl (Or.inr (Or.inr ⟨rfl, h⟩))

/-- What is stopped at an integer. -/
theorem normalize_eq_integerTooLong_iff :
    normalize limits source = .error .integerTooLong ↔ source.HoldsTooLong limits := by
  rw [normalize_eq_error_iff, ofSource_eq_error_cases]
  constructor
  · rintro ((⟨r, -, hr⟩ | ⟨v, -, -, hv⟩ | ⟨hdeep, -⟩) | ⟨-, h⟩)
    · cases r <;> cases hr
    · cases hv
    · cases hdeep
    · exact h
  · exact fun h => Or.inr ⟨rfl, h⟩

/-- What fails with an error that has no text of its own is given up or stopped at an integer. -/
theorem untold_iff :
    (∃ e, normalize limits source = .error e ∧ e.message? = none) ↔
      source.IsGivenUp limits ∨ source.HoldsTooLong limits := by
  rw [← normalize_eq_tooDeep_iff, ← normalize_eq_integerTooLong_iff]
  constructor
  · rintro ⟨e, he, hmessage⟩
    cases e with
    | tooDeep => exact Or.inl he
    | integerTooLong => exact Or.inr he
    | notJson | notAnObject => cases hmessage
  · rintro (he | he) <;> exact ⟨_, he, rfl⟩

/-- Nothing is where all integers fit the machine. -/
theorem not_holdsTooLong {form : StoredForm} (hform : StoredForm.ofSource limits source = .ok form)
    (hconfig : form.config.fits limits = true) (hrecord : form.record.fits limits = true) :
    ¬ source.HoldsTooLong limits := by
  rintro ⟨form', hform', text, htext, hlong⟩
  rw [hform] at hform'
  obtain rfl := Except.ok.inj hform'
  have htaken := List.all_eq_true.mp (StoredForm.all_hasText hconfig hrecord) text htext
  rw [htaken] at hlong
  cases hlong

/-- What is refused, with an error that has a text of its own. -/
theorem refused_iff :
    (∃ e, normalize limits source = .error e ∧ e.message?.isSome = true) ↔
      ¬ source.HoldsObject limits ∧ ¬ source.IsGivenUp limits := by
  constructor
  · rintro ⟨e, he, hmessage⟩
    refine ⟨?_, fun h => ?_⟩
    · rintro ⟨v, hheld, hobject⟩
      rw [normalize_eq_error_iff, ofSource_eq_error_cases] at he
      rcases he with (⟨r, hheld', -⟩ | ⟨w, hheld', hw, -⟩ | ⟨rfl, -⟩) | ⟨rfl, -⟩
      · rw [hheld] at hheld'
        cases hheld'
      · rw [hheld] at hheld'
        cases hheld'
        rw [hobject] at hw
        cases hw
      · cases hmessage
      · cases hmessage
    · rw [normalize_eq_tooDeep_iff.mpr h] at he
      cases he
      cases hmessage
  · rintro ⟨hobject, hgivenUp⟩
    cases hheld : source.held limits with
    | error r =>
      refine ⟨.ofReadError r,
        normalize_eq_error_iff.mpr (Or.inl (ofSource_eq_error_cases.mpr (Or.inl ⟨r, hheld, rfl⟩))),
        ?_⟩
      cases r with
      | tooDeep => exact absurd (Or.inl hheld) hgivenUp
      | _ => rfl
    | ok v =>
      have hv : v.isObject = false := by
        by_contra h
        exact hobject ⟨v, hheld, by simpa using h⟩
      exact ⟨.notAnObject v.kindName, normalize_eq_error_iff.mpr
        (Or.inl (ofSource_eq_error_cases.mpr (Or.inr (Or.inl ⟨v, hheld, hv, rfl⟩)))), rfl⟩

/-- From everything else there is a form. -/
theorem exists_normalize (hobject : source.HoldsObject limits) (hread : ¬ source.IsGivenUp limits)
    (hshort : ¬ source.HoldsTooLong limits) :
    ∃ config, normalize limits source = .ok config := by
  cases h : normalize limits source with
  | ok config => exact ⟨config, rfl⟩
  | error e =>
    cases hmessage : e.message? with
    | some message => exact absurd hobject (refused_iff.mp ⟨e, h, by rw [hmessage]; rfl⟩).1
    | none =>
      cases e with
      | tooDeep => exact absurd (normalize_eq_tooDeep_iff.mp h) hread
      | integerTooLong => exact absurd (normalize_eq_integerTooLong_iff.mp h) hshort
      | _ => cases hmessage

namespace Json

/-- More opening brackets than there is room for are given up. -/
theorem readValue_brackets {limits : Limits} {n room fuel : Nat} (hroom : room < n)
    (hfuel : 2 * room < fuel) :
    readValue limits fuel room (List.replicate n '[') = .error .tooDeep := by
  induction room generalizing n fuel with
  | zero =>
    obtain ⟨n, rfl⟩ := Nat.exists_eq_add_of_lt hroom
    obtain ⟨fuel, rfl⟩ := Nat.exists_eq_add_of_lt hfuel
    rfl
  | succ room ih =>
    obtain ⟨n, rfl⟩ : ∃ k, n = k + 2 := ⟨n - 2, by omega⟩
    obtain ⟨fuel, rfl⟩ : ∃ k, fuel = k + 2 := ⟨fuel - 2, by omega⟩
    have hinside : readValue limits fuel room (List.replicate (n + 1) '[') = .error .tooDeep :=
      ih (by omega) (by omega)
    have hitems :
        readItems limits (fuel + 1) room (List.replicate (n + 1) '[') = .error .tooDeep := by
      rw [readItems, hinside]
    rw [List.replicate_succ, List.replicate_succ,
      readValue_array limits (fuel + 1) room ⟨by decide, by decide⟩, ← List.replicate_succ,
      hitems]
    rfl

/-- So a text of nothing but brackets is given up before it is seen to be no JSON. -/
theorem read_brackets {limits : Limits} {n : Nat} (h : limits.nesting < n) :
    read limits (String.ofList (List.replicate n '[')) = .error .tooDeep := by
  have hstart : skipSpace (List.replicate n '[') = List.replicate n '[' := by
    obtain ⟨n, rfl⟩ := Nat.exists_eq_add_of_lt h
    rfl
  rw [read, String.toList_ofList, readAll, hstart, List.length_replicate,
    readValue_brackets h (by omega)]

end Json

end SalonBooking
