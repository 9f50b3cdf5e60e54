/-
# Intervals of the default group and of named groups

The interval of the default group is a setting of its own, which is converted to a text and then
read as a duration.  The interval of a named group is a field of a record, which is a duration as a
text or as a whole number.  Both ways are taken here from any settings that load, by putting a value
in either place.

The two ways agree, except on numbers that are stored as fractions and printed as whole ones, such
as `60.0`: the text of such a number is read as seconds, while the field of a record refuses it.
-/
import Admission.Proofs.Binary64.Characters
import Admission.Proofs.Config.Findings
import Admission.Proofs.Duration.Grammar
import Admission.Proofs.Settings.Layers

namespace Admission.Config

open Settings (Fault Leaf)
open Text (Denotes)

/-! ## Configurations with an interval put in -/

/-- The configuration with another interval of the default group. -/
def withDefaultInterval (c : Config) (d : Duration) : Config :=
  { c with default := { c.default with interval := d } }

/-- The group with another interval. -/
def Group.withInterval (g : Group) (d : Duration) : Group :=
  { g with params := { g.params with interval := d } }

/-- The configuration with another interval of the group at a place. -/
def withGroupInterval (c : Config) (place : Nat) (d : Duration) : Config :=
  { c with groups := c.groups.modify place (·.withInterval d) }

/-- The entry `t` of a list of groups has the value as its interval, and is otherwise like `s`.  It
is a table of fields, or a list of them in their order. -/
inductive PutsInterval (value : Settings) : Settings → Settings → Prop
  | table (origin : Option String) (entries : List (String × Settings)) :
    PutsInterval value (.table origin entries)
      (.table origin (Settings.putEntry "interval" value entries))
  | list (origin : Option String) (items : List Settings) (h : 2 < items.length) :
    PutsInterval value (.list origin items) (.list origin (items.set 2 value))

/-- The settings `t` have the value as the interval of the group at a place, and are otherwise like
`s`. -/
inductive PutsGroupInterval (place : Nat) (value : Settings) (s t : Settings) : Prop
  | intro {origin : Option String} {items : List Settings} {entry entry' : Settings}
    (hgroups : s.get? (Settings.keyPath groupsKey) = some (.list origin items))
    (hentry : items[place]? = some entry) (hinterval : PutsInterval value entry entry')
    (hputs : Puts groupsKey (.list origin (items.set place entry')) s t)

/-- The value is stored as a fraction, but its text is the number `n` of seconds. -/
def WholeFraction (v : Leaf) (n : Nat) : Prop :=
  ∃ x, v = .float x ∧ Denotes x.render.toList n ∧ n < 2 ^ 64

/-! ## The two ways of reading a value -/

/-- The duration that the text of a value is read as. -/
def textDuration? (value : Settings) : Option Duration :=
  match value.toText with
  | .ok text => Duration.parse text
  | .error _ => none

section values

variable {v : Leaf} {origin : Option String}

lemma parse_render_eq_some_iff {x : Binary64.Signed} {d : Duration} :
    Duration.parse x.render = some d ↔
      ∃ n, Denotes x.render.toList n ∧ n < 2 ^ 64 ∧ d = .ofSeconds n := by
  have hword : ∀ {s : String}, (∃ c ∈ s.toList, c.isDigit = false ∧ c ≠ '+') →
      Duration.parse s = none → (Duration.parse s = some d ↔
        ∃ n, Denotes s.toList n ∧ n < 2 ^ 64 ∧ d = .ofSeconds n) := by
    rintro s ⟨c, hc, hdigit, hplus⟩ hnone
    rw [hnone]
    refine ⟨fun h => absurd h (by simp), ?_⟩
    rintro ⟨n, hn, -⟩
    rcases hn.chars c hc with h | h
    · exact absurd h (by simp [hdigit])
    · exact absurd h hplus
  cases x with
  | nan => exact hword ⟨'N', by decide, by decide, by decide⟩ (by decide +kernel)
  | infinite negative =>
    refine hword ⟨'i', ?_, by decide, by decide⟩ ?_
    · cases negative <;> decide
    · cases negative <;> decide +kernel
  | finite negative magnitude =>
    exact Duration.parse_of_no_unit (Binary64.isNumeric_of_mem_render negative magnitude)

lemma parse_toString_int {n : Int} (hsmall : Text.isSmall n = true) :
    Duration.parse (toString n) = if 0 ≤ n then some (.ofSeconds n.toNat) else none := by
  simp only [Text.isSmall, Bool.and_eq_true, decide_eq_true_eq] at hsmall
  cases n with
  | ofNat n =>
    have hn : 0 ≤ Int.ofNat n := Int.natCast_nonneg n
    rw [if_pos hn]
    have htext : (toString (Int.ofNat n)).toList = Text.numeral n := Nat.toList_repr
    refine (Duration.parse_of_no_unit fun c hc => ?_).2 ⟨n, ?_, ?_, rfl⟩
    · exact .inl ((Text.digits_numeral n).isDigit c (htext ▸ hc))
    · rw [htext]
      have hdenotes := Denotes.digits (Text.digits_numeral n)
      rwa [Text.digitsValue_numeral] at hdenotes
    · have hlimit : (n : Int) < 9223372036854775808 := hsmall.2
      omega
  | negSucc n =>
    have htext : (toString (Int.negSucc n)).toList = '-' :: Text.numeral (n + 1) := by
      show ("-" ++ (n + 1).repr).toList = _
      rw [String.toList_append, Nat.toList_repr]
      rfl
    have hnumeric : ∀ c ∈ (toString (Int.negSucc n)).toList, Text.IsNumeric c := by
      rw [htext, List.forall_mem_cons]
      exact ⟨.inr (.inr rfl), fun c hc => .inl ((Text.digits_numeral _).isDigit c hc)⟩
    rw [if_neg (by omega), Option.eq_none_iff_forall_ne_some]
    intro d hd
    obtain ⟨m, hm, -⟩ := (Duration.parse_of_no_unit hnumeric).1 hd
    rw [htext] at hm
    rcases hm.chars '-' List.mem_cons_self with h | h <;> exact absurd h (by decide)

/-- A setting that is a whole number gives less than 2⁶³ seconds, however it is read. -/
lemma seconds_of_int_lt {n : Int} {d : Duration} (hsmall : Text.isSmall n = true)
    (hread : textDuration? (.leaf origin (.int n)) = some d ∨
      settingsFormat.duration (.leaf origin (.int n)) = .ok d) : d.seconds < 2 ^ 63 := by
  have hd : d = .ofSeconds n.toNat := by
    rcases hread with htext | hvalue
    · replace htext : Duration.parse (toString n) = some d := htext
      rw [parse_toString_int hsmall, Option.ite_none_right_eq_some] at htext
      exact (Option.some.inj htext.2).symm
    · replace hvalue : (if 0 ≤ n then .ok (.ofSeconds n.toNat) else .error .negativeDuration) =
          (.ok d : Except Fault Duration) := hvalue
      split at hvalue
      · exact (Except.ok.inj hvalue).symm
      · exact absurd hvalue (by simp)
  simp only [Text.isSmall, Bool.and_eq_true, decide_eq_true_eq] at hsmall
  rw [hd, Duration.seconds, Duration.ofSeconds, Nat.mul_div_cancel _ (by decide)]
  omega

/-- The text of a value and the value itself are read as the same duration, or neither is one,
unless the value is a fraction that is printed as a whole number. -/
lemma textDuration?_or_whole (hsmall : ∀ n, v = .int n → Text.isSmall n = true)
    (origin origin' : Option String) :
    (∃ d, textDuration? (.leaf origin v) = some d ∧
      settingsFormat.duration (.leaf origin' v) = .ok d) ∨
    (textDuration? (.leaf origin v) = none ∧
      ∃ fault, settingsFormat.duration (.leaf origin' v) = .error fault) ∨
    ∃ n, WholeFraction v n := by
  cases v with
  | null => exact .inr (.inl ⟨rfl, _, rfl⟩)
  | bool b =>
    have htext : textDuration? (.leaf origin (.bool b)) = Duration.parse (toString b) := rfl
    refine .inr (.inl ⟨htext.trans ?_, _, rfl⟩)
    cases b <;> decide +kernel
  | int n =>
    have hparse := parse_toString_int (hsmall n rfl)
    have htext : textDuration? (.leaf origin (.int n)) = Duration.parse (toString n) := rfl
    rw [htext, hparse]
    by_cases hn : 0 ≤ n
    · exact .inl ⟨.ofSeconds n.toNat, if_pos hn, if_pos hn⟩
    · exact .inr (.inl ⟨if_neg hn, .negativeDuration, if_neg hn⟩)
  | float x =>
    have htext : textDuration? (.leaf origin (.float x)) = Duration.parse x.render := rfl
    rw [htext]
    cases hparse : Duration.parse x.render with
    | none => exact .inr (.inl ⟨rfl, _, rfl⟩)
    | some d =>
      obtain ⟨n, hn, hfits, -⟩ := parse_render_eq_some_iff.1 hparse
      exact .inr (.inr ⟨n, x, rfl, hn, hfits⟩)
  | text s =>
    have htext : textDuration? (.leaf origin (.text s)) = Duration.parse s := rfl
    have hfound : settingsFormat.found (.leaf origin' (.text s)) = .text s := rfl
    rw [htext, Format.duration, hfound]
    dsimp only
    cases Duration.parse s with
    | none => exact .inr (.inl ⟨rfl, _, rfl⟩)
    | some d => exact .inl ⟨d, rfl, rfl⟩

/-- A fraction that is printed as a whole number is read by its text only. -/
lemma WholeFraction.read {n : Nat} (h : WholeFraction v n) (origin origin' : Option String) :
    textDuration? (.leaf origin v) = some (.ofSeconds n) ∧
      ∃ fault, settingsFormat.duration (.leaf origin' v) = .error fault := by
  obtain ⟨x, rfl, hn, hfits⟩ := h
  exact ⟨parse_render_eq_some_iff.2 ⟨n, hn, hfits, rfl⟩, _, rfl⟩

end values

/-! ## Reading records -/

section records

variable {α : Type} {items : List Settings} {as : List α} {read : Settings → Except Fault α}

/-- Reading a list after one of its items has been replaced. -/
lemma items_set (h : Format.items read items = .ok as) {place : Nat} (hplace : place < items.length)
    (value : Settings) :
    Format.items read (items.set place value) = (read value).map fun a => as.set place a := by
  induction items generalizing as place with
  | nil => exact absurd hplace (by simp)
  | cons item items ih =>
    rw [Format.items] at h
    split at h
    · exact absurd h (by simp)
    · rename_i a ha
      obtain ⟨rest, hrest, rfl⟩ := map_eq_ok_iff.1 h
      cases place with
      | zero =>
        rw [List.set_cons_zero, Format.items]
        cases read value with
        | error fault => rfl
        | ok b => simp only [hrest, Except.map, List.set_cons_zero]
      | succ place =>
        rw [List.set_cons_succ, Format.items, ha]
        dsimp only
        rw [ih hrest (Nat.lt_of_succ_lt_succ hplace)]
        cases read value <;> rfl

/-- The item at a place is read as the result at this place. -/
lemma getElem?_items (h : Format.items read items = .ok as) {place : Nat} {item : Settings}
    (hitem : items[place]? = some item) : ∃ a, as[place]? = some a ∧ read item = .ok a := by
  induction items generalizing as place with
  | nil => exact absurd hitem (by simp)
  | cons first items ih =>
    rw [Format.items] at h
    split at h
    · exact absurd h (by simp)
    · rename_i a ha
      obtain ⟨rest, hrest, rfl⟩ := map_eq_ok_iff.1 h
      cases place with
      | zero =>
        obtain rfl := Option.some.inj hitem
        exact ⟨a, rfl, ha⟩
      | succ place => exact ih hrest hitem

/-- The names of the fields of a group, in their order. -/
def groupFields : List String := ["name", "quota", "interval", "event_expression"]

/-- An entry with another interval has the same values of all other fields. -/
lemma fields_of_putsInterval {value entry entry' : Settings} (h : PutsInterval value entry entry')
    {fs : Fields Settings}
    (hfields : settingsFormat.fields "RatelimitGroup" groupFields entry = .ok fs) :
    ∃ fs', settingsFormat.fields "RatelimitGroup" groupFields entry' = .ok fs' ∧
      fs'.values = fs.values.set 2 (some value) ∧ fs'.surplus = fs.surplus ∧
      (∀ place name, fs'.missing place name = fs.missing place name) ∧ 2 < fs.values.length := by
  cases h with
  | table origin entries =>
    obtain rfl := Except.ok.inj hfields
    refine ⟨_, rfl, ?_, rfl, fun _ _ => rfl, by simp [groupFields]⟩
    simp [groupFields, Settings.lookup_putEntry]
  | list origin items hplace =>
    obtain rfl := Except.ok.inj hfields
    refine ⟨_, rfl, ?_, ?_, fun _ _ => rfl, by simp [groupFields]⟩
    · have hlong : 2 < (items.map some).length := by simpa using hplace
      dsimp only
      rw [List.map_set, ← List.set_append_left _ _ hlong, List.take_set]
    · dsimp only
      rw [List.length_set]

lemma at?_set {fs fs' : Fields Settings} {value : Settings}
    (hvalues : fs'.values = fs.values.set 2 (some value)) {place : Nat} (hplace : place ≠ 2)
    (read : Settings → Except Fault α) : fs'.at? place read = fs.at? place read := by
  rw [Fields.at?, Fields.at?, hvalues, List.getElem?_set_ne hplace.symm]

/-- A group is read from an entry with another interval as from the entry itself, but for the
interval. -/
lemma group_of_putsInterval {value entry entry' : Settings} (h : PutsInterval value entry entry')
    {g : Group} (hread : settingsFormat.group entry = .ok g) :
    settingsFormat.group entry' = (settingsFormat.duration value).map g.withInterval := by
  rw [Format.group] at hread
  obtain ⟨fs, hfields, hread⟩ := bind_eq_ok_iff.1 hread
  obtain ⟨fs', hfields', hvalues, hsurplus, hmissing, hlength⟩ := fields_of_putsInterval h hfields
  obtain ⟨name?, hname, hread⟩ := bind_eq_ok_iff.1 hread
  obtain ⟨quota, hquota, hread⟩ := bind_eq_ok_iff.1 hread
  obtain ⟨interval, -, hread⟩ := bind_eq_ok_iff.1 hread
  obtain ⟨expression, hexpression, hread⟩ := bind_eq_ok_iff.1 hread
  obtain ⟨name, hdemand, hread⟩ := bind_eq_ok_iff.1 hread
  have hinterval : fs'.at? 2 settingsFormat.duration =
      (settingsFormat.duration value).map some := by
    rw [Fields.at?, hvalues, List.getElem?_set_self hlength]
    rfl
  have hdemand' : fs'.demand 0 "name" name? = .ok name := by
    rw [← hdemand]
    cases name? with
    | none => exact congrArg Except.error (hmissing 0 "name")
    | some name => rfl
  have hname' := (at?_set hvalues (by decide : 0 ≠ 2) settingsFormat.text).trans hname
  have hquota' := (at?_set hvalues (by decide : 1 ≠ 2) settingsFormat.word).trans hquota
  have hexpression' := (at?_set hvalues (by decide : 3 ≠ 2) settingsFormat.text).trans hexpression
  rw [groupFields] at hfields'
  simp only [Format.group, hfields', hname', hquota', hinterval, hexpression', bind, Except.bind]
  cases settingsFormat.duration value with
  | error fault => rfl
  | ok d =>
    simp only [Except.map, hdemand']
    rw [Fields.finish] at hread ⊢
    rw [hsurplus]
    cases hfinish : fs.surplus with
    | some fault => simp [hfinish] at hread
    | none =>
      rw [hfinish] at hread
      obtain rfl := Except.ok.inj hread
      rfl

end records

/-! ## Loading -/

section loading

variable {s t value : Settings} {c : Config} {key : String}

/-- A value that is read as a duration by its text is found as one. -/
lemma durationSetting_eq_ok_iff {i : Option Duration}
    (h : t.get? (Settings.keyPath key) = some value) :
    durationSetting t key = .ok i ↔ ∃ d, i = some d ∧ textDuration? value = some d := by
  rw [durationSetting, lookup_eq h, textDuration?]
  cases value.toText with
  | error fault => simp [sourced, Except.map, Except.mapError]
  | ok text =>
    simp only [sourced, Except.map, Except.mapError]
    cases Duration.parse text with
    | none => simp
    | some d => simp [eq_comm]

/-- With another interval of the default group, the settings load if its text is a duration. -/
lemma load_of_puts_interval (hload : load s = .ok (some c)) (h : Puts intervalKey value s t) :
    (∀ d, textDuration? value = some d → load t = .ok (some (c.withDefaultInterval d))) ∧
      (textDuration? value = none → ∃ e, load t = .error e) := by
  obtain ⟨f, hf, rfl⟩ := load_eq_some_iff.1 hload
  have hon : enabled t = .ok true := (h.enabled_eq (by decide)).trans hf.enabled
  constructor
  · intro d hd
    refine load_eq_some_iff.2 ⟨{ f with interval := some d }, ?_, rfl⟩
    exact
      { enabled := hon
        quota := (h.lookup_other (by decide) (by decide) _).trans hf.quota
        interval := (durationSetting_eq_ok_iff h.get?_key).2 ⟨d, rfl, hd⟩
        expression := (h.lookup_other (by decide) (by decide) _).trans hf.expression
        groups := (h.lookup_other (by decide) (by decide) _).trans hf.groups
        rules := (h.lookup_other (by decide) (by decide) _).trans hf.rules
        timeout := (h.durationSetting_other (by decide) (by decide)).trans hf.timeout }
  · intro hnone
    refine exists_load_error hon fun f' hf' => ?_
    obtain ⟨d, -, hd⟩ := (durationSetting_eq_ok_iff h.get?_key).1 hf'.interval
    exact absurd (hnone.symm.trans hd) (by simp)

/-- With another interval of one of them, the groups are found if it is a duration itself. -/
lemma lookup_groups_of_putsInterval {origin : Option String} {items : List Settings} {place : Nat}
    {entry entry' : Settings} {gs : List Group}
    (hput : t.get? (Settings.keyPath groupsKey) = some (.list origin (items.set place entry')))
    (hentry : items[place]? = some entry) (hinterval : PutsInterval value entry entry')
    (hread : Format.items settingsFormat.group items = .ok gs) :
    t.lookup (settingsFormat.list settingsFormat.group) groupsKey =
      (((settingsFormat.duration value).map fun d => gs.modify place (·.withInterval d)).map
        some).mapError (Fault.forKey groupsKey) := by
  obtain ⟨g, hg, hgroup⟩ := getElem?_items hread hentry
  have hplace : place < items.length := (List.getElem?_eq_some_iff.1 hentry).1
  have hlist : settingsFormat.list settingsFormat.group (.list origin (items.set place entry')) =
      Format.items settingsFormat.group (items.set place entry') := rfl
  have hmodify : ∀ d, gs.modify place (·.withInterval d) = gs.set place (g.withInterval d) := by
    intro d
    rw [List.modify_eq_set_getElem?, hg]
    rfl
  simp only [hmodify]
  rw [lookup_eq hput, hlist, items_set hread hplace, group_of_putsInterval hinterval hgroup]
  cases settingsFormat.duration value <;> rfl

/-- With another interval of a named group, the settings load if it is a duration itself. -/
lemma load_of_puts_groupInterval {place : Nat} (hload : load s = .ok (some c))
    (h : PutsGroupInterval place value s t) :
    (∀ d, settingsFormat.duration value = .ok d →
      load t = .ok (some (c.withGroupInterval place d))) ∧
      ∀ fault, settingsFormat.duration value = .error fault → ∃ e, load t = .error e := by
  obtain ⟨f, hf, rfl⟩ := load_eq_some_iff.1 hload
  obtain @⟨origin, items, entry, entry', hgroups, hentry, hinterval, hputs⟩ := h
  have hon : enabled t = .ok true := (hputs.enabled_eq (by decide)).trans hf.enabled
  obtain ⟨gs, hgs, hread⟩ : ∃ gs, f.groups = some gs ∧
      Format.items settingsFormat.group items = .ok gs := by
    have hfound := hf.groups
    rw [lookup_eq hgroups, mapError_eq_ok_iff, map_eq_ok_iff] at hfound
    obtain ⟨gs, hread, hgs⟩ := hfound
    exact ⟨gs, hgs.symm, hread⟩
  have hfound := lookup_groups_of_putsInterval hputs.get?_key hentry hinterval hread
  constructor
  · intro d hd
    rw [hd] at hfound
    have hconfig : Findings.config { f with groups := some (gs.modify place (·.withInterval d)) } =
        f.config.withGroupInterval place d := by
      rw [withGroupInterval, Findings.config, Findings.config, hgs]
      rfl
    refine load_eq_some_iff.2 ⟨_, ?_, hconfig⟩
    exact
      { enabled := hon
        quota := (hputs.lookup_other (by decide) (by decide) _).trans hf.quota
        interval := (hputs.durationSetting_other (by decide) (by decide)).trans hf.interval
        expression := (hputs.lookup_other (by decide) (by decide) _).trans hf.expression
        groups := hfound
        rules := (hputs.lookup_other (by decide) (by decide) _).trans hf.rules
        timeout := (hputs.durationSetting_other (by decide) (by decide)).trans hf.timeout }
  · intro fault hfault
    refine exists_load_error hon fun f' hf' => ?_
    rw [hfault] at hfound
    exact absurd (hfound.symm.trans hf'.groups) (by simp [Except.map, Except.mapError])

end loading

/-! ## The main statement -/

/-- Settings in which rate limiting is on, with more entries beside the switch. -/
def switchedOn (entries : List (String × Settings)) : Settings :=
  let table := Settings.table none
  table [("ratelimits", table [("auth", table (("enable", .leaf none (.bool true)) :: entries))])]

/-- A list of groups with one entry. -/
def singleGroup (fields : List (String × Settings)) : String × Settings :=
  ("groups", .list none [.table none (("name", .leaf none (.text "a")) :: fields)])

/-- **The default group and named groups read intervals alike, but for whole fractions.**  Take any
settings that load, and a value that is put in once as the interval of the default group and once as
the interval of a named group; whole numbers have 64 bits with a sign, like all in settings.  Unless
the value is stored as a fraction and printed as a whole number, both settings load with the same
interval in the two places, or both fail to load.  A whole fraction is read as seconds in the
default group and refused in a named group. -/
theorem intervals_read_alike_unless_whole_fraction {s s₁ s₂ : Settings} {c : Config} {v : Leaf}
    {origin₁ origin₂ : Option String} {place : Nat} (hload : load s = .ok (some c))
    (hsmall : ∀ n, v = .int n → Text.isSmall n = true)
    (hdefault : Puts intervalKey (.leaf origin₁ v) s s₁)
    (hgroup : PutsGroupInterval place (.leaf origin₂ v) s s₂) :
    (((∃ d, load s₁ = .ok (some (c.withDefaultInterval d)) ∧
        load s₂ = .ok (some (c.withGroupInterval place d))) ∨
      ∃ e₁ e₂, load s₁ = .error e₁ ∧ load s₂ = .error e₂) ↔ ¬ ∃ n, WholeFraction v n) ∧
    ∀ n, WholeFraction v n →
      load s₁ = .ok (some (c.withDefaultInterval (.ofSeconds n))) ∧ ∃ e, load s₂ = .error e := by
  obtain ⟨hok₁, herror₁⟩ := load_of_puts_interval hload hdefault
  obtain ⟨hok₂, herror₂⟩ := load_of_puts_groupInterval hload hgroup
  have hwhole : ∀ n, WholeFraction v n →
      load s₁ = .ok (some (c.withDefaultInterval (.ofSeconds n))) ∧ ∃ e, load s₂ = .error e := by
    intro n hn
    obtain ⟨htext, fault, hfault⟩ := hn.read origin₁ origin₂
    exact ⟨hok₁ _ htext, herror₂ fault hfault⟩
  refine ⟨⟨?_, fun hnot => ?_⟩, hwhole⟩
  · rintro halike ⟨n, hn⟩
    obtain ⟨h₁, e, h₂⟩ := hwhole n hn
    rcases halike with ⟨d, -, hsame⟩ | ⟨e₁, -, hfails, -⟩
    · exact absurd (h₂.symm.trans hsame) (by simp)
    · exact absurd (h₁.symm.trans hfails) (by simp)
  · rcases textDuration?_or_whole hsmall origin₁ origin₂ with
      ⟨d, htext, hread⟩ | ⟨htext, fault, hread⟩ | hn
    · exact .inl ⟨d, hok₁ d htext, hok₂ d hread⟩
    · obtain ⟨e₁, h₁⟩ := herror₁ htext
      obtain ⟨e₂, h₂⟩ := herror₂ fault hread
      exact .inr ⟨e₁, e₂, h₁, h₂⟩
    · exact absurd hn hnot

/-- The whole number 90 is an interval of 90 seconds in both places. -/
theorem whole_number_is_read_in_both_places :
    let value := Settings.leaf none (.int 90)
    let c : Config := ⟨Params.standard, [⟨"a", Params.standard⟩], [], none⟩
    load (switchedOn [singleGroup [], ("default", .table none [("interval", value)])]) =
        .ok (some (c.withDefaultInterval (.ofSeconds 90))) ∧
      load (switchedOn [singleGroup [("interval", value)]]) =
        .ok (some (c.withGroupInterval 0 (.ofSeconds 90))) := by
  intro value c
  have hload : load (switchedOn [singleGroup []]) = .ok (some c) := by decide +kernel
  have hsmall : ∀ n, Leaf.int 90 = .int n → Text.isSmall n = true := by
    rintro n ⟨⟩
    decide
  have hdefault : Puts intervalKey value (switchedOn [singleGroup []])
      (switchedOn [singleGroup [], ("default", .table none [("interval", value)])]) := by
    refine ⟨by rfl, ?_⟩
    simp only [keys, List.forall_mem_cons]
    exact ⟨fun _ => by rfl, fun _ => by rfl, fun h => absurd rfl h, fun _ => by rfl,
      fun _ => by rfl, fun _ => by rfl, fun _ => by rfl, by simp⟩
  have hgroup : PutsGroupInterval 0 value (switchedOn [singleGroup []])
      (switchedOn [singleGroup [("interval", value)]]) := by
    refine .intro (by rfl) (by rfl) (.table none _) ⟨by rfl, ?_⟩
    simp only [keys, List.forall_mem_cons]
    exact ⟨fun _ => by rfl, fun _ => by rfl, fun _ => by rfl, fun _ => by rfl,
      fun h => absurd rfl h, fun _ => by rfl, fun _ => by rfl, by simp⟩
  have hnot : ¬ ∃ n, WholeFraction (.int 90) n := by
    rintro ⟨n, x, hx, -⟩
    cases hx
  -- the default group is computed, and the named group has to be like it
  have hcomputed : load (switchedOn [singleGroup [],
      ("default", .table none [("interval", value)])]) =
        .ok (some (c.withDefaultInterval (.ofSeconds 90))) := by decide +kernel
  refine ⟨hcomputed, ?_⟩
  rcases (intervals_read_alike_unless_whole_fraction hload hsmall hdefault hgroup).1.2 hnot with
    ⟨d, hread, hsame⟩ | ⟨e, -, hfails, -⟩
  · have hd : c.withDefaultInterval d = c.withDefaultInterval (.ofSeconds 90) :=
      Option.some.inj (Except.ok.inj (hread.symm.trans hcomputed))
    obtain rfl : d = .ofSeconds 90 := congrArg (·.default.interval) hd
    exact hsame
  · exact absurd (hfails.symm.trans hcomputed) (by simp)

/-- The fraction 60.0 is an interval of a minute in the default group and no interval of a named
group. -/
theorem whole_fraction_is_read_in_one_place :
    let value := Settings.leaf none (.float (.finite false (.ofNat 60)))
    let c : Config := ⟨Params.standard, [⟨"a", Params.standard⟩], [], none⟩
    load (switchedOn [singleGroup [], ("default", .table none [("interval", value)])]) =
        .ok (some (c.withDefaultInterval (.ofSeconds 60))) ∧
      (load (switchedOn [singleGroup [("interval", value)]])).isOk = false := by
  decide +kernel

end Admission.Config
