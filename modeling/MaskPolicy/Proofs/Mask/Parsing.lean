import MaskPolicy.Policy.Parse

/-!
# Texts that spell masks

A text spells a mask when it is eleven ASCII digits, and then it is the text of exactly one mask.
Parsing such a text leaves only the alphabet to be looked at: a policy that comes out is the one the
mask denotes with that alphabet, and an error that comes out is about the alphabet.
-/

namespace MaskPolicy

namespace Mask

/-- A text of eleven ASCII digits and nothing else. -/
def Spelled (t : Text) : Prop := t.length = 11 ∧ t.all Char.isDigit = true

private theorem digitChar_ofNat_of_isDigit {c : Char} (h : c.isDigit = true) :
    digitChar (Fin.ofNat 10 (c.toNat - '0'.toNat)) = c :=
  Text.of_toNat_lt
    (fun c => c.isDigit = true → digitChar (Fin.ofNat 10 (c.toNat - '0'.toNat)) = c) (by decide)
    (Text.toNat_lt_of_isDigit h) h

/-- A character is read as a digit when it is the character of the digit. -/
theorem digit?_eq_some_iff {c : Char} {d : Fin 10} : digit? c = some d ↔ c = digitChar d := by
  constructor
  · intro h
    unfold digit? at h
    split at h
    · next hc =>
      obtain rfl := Option.some.inj h
      exact (digitChar_ofNat_of_isDigit hc).symm
    · cases h
  · rintro rfl
    exact digit?_digitChar d

private theorem mapM_digit?_eq_some_iff {t : Text} {ds : List (Fin 10)} :
    t.mapM digit? = some ds ↔ t = ds.map digitChar := by
  induction t generalizing ds with
  | nil => cases ds <;> simp
  | cons c cs ih =>
    rw [List.mapM_cons]
    simp only [Option.bind_eq_bind, Option.bind_eq_some_iff, digit?_eq_some_iff, ih]
    constructor
    · rintro ⟨d, rfl, rest, rfl, he⟩
      obtain rfl : d :: rest = ds := Option.some.inj he
      rfl
    · intro h
      cases ds with
      | nil => cases h
      | cons d rest =>
        obtain ⟨rfl, rfl⟩ := List.cons.inj h
        exact ⟨d, rfl, rest, rfl, rfl⟩

/-- Digits make a mask when they are the digits of it. -/
theorem ofDigits?_eq_some_iff {ds : List (Fin 10)} {m : Mask} :
    ofDigits? ds = some m ↔ ds = m.digits := by
  constructor
  · intro h
    unfold ofDigits? at h
    split at h
    · obtain rfl := Option.some.inj h
      rfl
    · cases h
  · rintro rfl
    exact m.ofDigits?_digits

/-- A text is read as a mask when it is the text of the mask. -/
theorem ofText?_eq_some_iff {t : Text} {m : Mask} : ofText? t = some m ↔ t = m.text := by
  simp only [ofText?, Option.bind_eq_some_iff, mapM_digit?_eq_some_iff, ofDigits?_eq_some_iff]
  constructor
  · rintro ⟨ds, rfl, rfl⟩
    rfl
  · rintro rfl
    exact ⟨m.digits, rfl, rfl⟩

/-- Masks with the same text are the same. -/
theorem text_injective {m m' : Mask} (h : m.text = m'.text) : m = m' :=
  Option.some.inj ((ofText?_text m).symm.trans (ofText?_eq_some_iff.mpr h))

/-- The text of a mask is eleven digits. -/
theorem spelled_text (m : Mask) : Spelled m.text := by
  have hdigit : ∀ d : Fin 10, (digitChar d).isDigit = true := by decide
  refine ⟨rfl, List.all_eq_true.mpr ?_⟩
  intro c hc
  obtain ⟨d, -, rfl⟩ := List.mem_map.mp hc
  exact hdigit d

/-- Eleven digits are the text of a mask. -/
theorem exists_text_of_spelled {t : Text} (h : Spelled t) : ∃ m : Mask, t = m.text := by
  obtain ⟨hlength, hdigits⟩ := h
  let ds : List (Fin 10) := t.map fun c => Fin.ofNat 10 (c.toNat - '0'.toNat)
  have ht : t = ds.map digitChar := by
    rw [List.map_map]
    refine (List.map_id t).symm.trans (List.map_congr_left ?_)
    intro c hc
    have hd : c.isDigit = true := List.all_eq_true.mp hdigits c hc
    exact (digitChar_ofNat_of_isDigit hd).symm
  have hds : ds.length = 11 := by rw [List.length_map, hlength]
  match ds, hds with
  | [a, b, c, d, e, f, g, h, i, j, k], _ =>
    exact ⟨⟨⟨a, b⟩, ⟨c, d⟩, ⟨e, f⟩, ⟨g, h⟩, ⟨i, j⟩, k⟩, ht⟩

end Mask

/-- An entry is a character when it is the text of it. -/
theorem Alphabet.character?_eq_some_iff {entry : Json} {c : Char} :
    character? entry = some c ↔ entry = .str [c] := by
  constructor
  · intro h
    unfold character? at h
    split at h
    · obtain rfl := Option.some.inj h
      rfl
    · cases h
  · rintro rfl
    rfl

/-- Entries are an alphabet when each is a text of one character. -/
theorem Alphabet.normalize_eq_ok_iff {entries : List Json} {alphabet : Text} :
    normalize entries = .ok alphabet ↔ entries = entriesOf alphabet := by
  constructor
  · intro h
    induction entries generalizing alphabet with
    | nil =>
      obtain rfl : [] = alphabet := Except.ok.inj h
      rfl
    | cons entry rest ih =>
      rw [normalize] at h
      split at h
      · cases h
      · next c hc =>
        cases hr : normalize rest with
        | error e =>
          rw [hr] at h
          cases h
        | ok cs =>
          rw [hr] at h
          obtain rfl : c :: cs = alphabet := Except.ok.inj h
          rw [character?_eq_some_iff.mp hc, ih hr]
          rfl
  · rintro rfl
    exact normalize_entriesOf alphabet

/-- The first entry that is not a text of one character: the entries before it are. -/
def Alphabet.FirstOther (entries : List Json) (entry : Json) : Prop :=
  ∃ before after, entries = before ++ entry :: after ∧ (∀ x ∈ before, ∃ c, x = .str [c]) ∧
    ¬∃ c, entry = .str [c]

namespace Alphabet

variable {x entry : Json} {entries : List Json}

private theorem firstOther_cons_of_other (hx : ¬∃ c, x = .str [c]) :
    FirstOther (x :: entries) entry ↔ entry = x := by
  constructor
  · rintro ⟨before, after, he, hbefore, -⟩
    cases before with
    | nil => exact (List.cons.inj he).1.symm
    | cons y before =>
      obtain ⟨rfl, -⟩ := List.cons.inj he
      exact absurd (hbefore x List.mem_cons_self) hx
  · rintro rfl
    exact ⟨[], entries, rfl, by simp, hx⟩

private theorem firstOther_cons_character {c : Char} :
    FirstOther (.str [c] :: entries) entry ↔ FirstOther entries entry := by
  constructor
  · rintro ⟨before, after, he, hbefore, hentry⟩
    cases before with
    | nil => exact absurd ⟨c, (List.cons.inj he).1.symm⟩ hentry
    | cons y before =>
      obtain ⟨-, rfl⟩ := List.cons.inj he
      exact ⟨before, after, rfl, fun x hx => hbefore x (List.mem_cons_of_mem y hx), hentry⟩
  · rintro ⟨before, after, rfl, hbefore, hentry⟩
    refine ⟨.str [c] :: before, after, rfl, ?_, hentry⟩
    intro x hx
    rcases List.mem_cons.mp hx with rfl | hx
    · exact ⟨c, rfl⟩
    · exact hbefore x hx

/-- Entries are refused for the first of them that is no character. -/
theorem normalize_eq_error_iff {e : MaskError} :
    normalize entries = .error e ↔ ∃ entry, FirstOther entries entry ∧ e = .notCharacter entry := by
  induction entries with
  | nil => simp [normalize, FirstOther]
  | cons x rest ih =>
    rw [normalize]
    cases hx : character? x with
    | none =>
      have hother : ¬∃ c, x = .str [c] := by
        rintro ⟨c, hc⟩
        rw [character?_eq_some_iff.mpr hc] at hx
        cases hx
      simp [firstOther_cons_of_other hother, eq_comm]
    | some c =>
      have hmap : (normalize rest).map (c :: ·) = .error e ↔ normalize rest = .error e := by
        cases normalize rest <;> simp [Except.map]
      obtain rfl := character?_eq_some_iff.mp hx
      simp only [hmap, ih, firstOther_cons_character]

end Alphabet

namespace Mask

/-- The policy that comes out is the one the mask denotes. -/
theorem toPolicy_of_usablePolicy {m : Mask} {alphabet : Text} {p : UsablePolicy}
    (h : m.usablePolicy alphabet = .ok p) : p.toPolicy = m.policy alphabet := by
  unfold usablePolicy at h
  split at h
  · obtain rfl := Except.ok.inj h
    rfl
  · cases h

/-- A mask cannot be used only for want of special characters. -/
theorem usablePolicy_eq_error_iff {m : Mask} {alphabet : Text} {e : MaskError} :
    m.usablePolicy alphabet = .error e ↔
      m.special.flag = 1 ∧ alphabet = [] ∧ e = .emptyAlphabet := by
  have hu : (m.policy alphabet).Usable ↔ (m.special.flag = 1 → alphabet ≠ []) := by
    simp [Policy.Usable, policy, MaskPair.rule]
  unfold usablePolicy
  split
  · next h =>
    constructor
    · intro he
      cases he
    · rintro ⟨hflag, hnil, -⟩
      exact absurd hnil (hu.mp h hflag)
  · next h =>
    have hlacks : m.special.flag = 1 ∧ alphabet = [] := by simpa [hu] using h
    simp [hlacks, eq_comm]

/-- Masks that denote the same policy give the same outcome. -/
theorem usablePolicy_congr {m m' : Mask} {alphabet : Text}
    (h : m.policy alphabet = m'.policy alphabet) :
    m.usablePolicy alphabet = m'.usablePolicy alphabet := by
  simp only [usablePolicy, h]

end Mask

namespace Policy

/-- Parsing the text of a mask looks at the alphabet, and then whether the mask can do with it. -/
theorem parse_text (m : Mask) (entries : List Json) :
    parse (.str m.text) entries = (Alphabet.normalize entries).bind m.usablePolicy := by
  have hm : Mask.ofValue (.str m.text) = .ok m := by
    simp [Mask.ofValue, Json.text?, Mask.ofText?_text]
  rw [parse, hm]
  rfl

/-- What the text of a mask is parsed to is what the mask denotes. -/
theorem exists_alphabet_of_parse {m : Mask} {entries : List Json} {p : UsablePolicy}
    (h : parse (.str m.text) entries = .ok p) :
    ∃ alphabet, Alphabet.normalize entries = .ok alphabet ∧ p.toPolicy = m.policy alphabet := by
  rw [parse_text] at h
  cases ha : Alphabet.normalize entries with
  | error e =>
    rw [ha] at h
    cases h
  | ok alphabet =>
    rw [ha] at h
    exact ⟨alphabet, rfl, Mask.toPolicy_of_usablePolicy h⟩

/-- When the text of a mask cannot be parsed, the alphabet is to blame: it has an entry that is no
character, or it is empty although the mask allows special characters. -/
theorem parse_text_eq_error_iff {m : Mask} {entries : List Json} {e : MaskError} :
    parse (.str m.text) entries = .error e ↔
      (∃ entry, Alphabet.FirstOther entries entry ∧ e = .notCharacter entry) ∨
        (m.special.flag = 1 ∧ entries = [] ∧ e = .emptyAlphabet) := by
  rw [parse_text, ← Alphabet.normalize_eq_error_iff]
  cases ha : Alphabet.normalize entries with
  | error e' =>
    have hne : entries ≠ [] := by
      rintro rfl
      cases ha
    simp [Except.bind, hne]
  | ok alphabet =>
    obtain rfl := Alphabet.normalize_eq_ok_iff.mp ha
    simp [Except.bind, Mask.usablePolicy_eq_error_iff, Alphabet.entriesOf]

/-- A text of a mask is never refused for itself. -/
theorem kind_of_parse_text {m : Mask} {entries : List Json} {e : MaskError}
    (h : parse (.str m.text) entries = .error e) : e.kind = .invalidSpecialAlphabet := by
  rcases parse_text_eq_error_iff.mp h with ⟨entry, -, rfl⟩ | ⟨-, -, rfl⟩
  · rfl
  · rfl

end Policy

end MaskPolicy
