import MaskPolicy.Calls
import MaskPolicy.Proofs.Fault.Message
import MaskPolicy.Proofs.Mask.Parsing

/-!
# Calls that do not break off

With a mask and an alphabet whose integers can all be written, parsing comes to a policy or to an
error with a message. The consumers of masks then come to an end too: a class that is allowed has
characters, since a mask that allows special characters is refused when there are none, so that
every selection can be made.
-/

namespace MaskPolicy

namespace UsablePolicy

private theorem selected_isOk (p : UsablePolicy) {c : CharClass} (hc : c ∈ p.allowedClasses) :
    ∃ x, p.toPolicy.selected c = .ok x :=
  cyclic_isOk (p.usable.charset_ne_nil (List.mem_filter.mp hc).2)
    (Int.natCast_nonneg (p.rule c).index.val)

private theorem requirements?_eq_ok (p : UsablePolicy) {cs : List CharClass}
    (hcs : ∀ c ∈ cs, c ∈ p.allowedClasses) :
    p.requirements? cs = .ok (cs.filterMap p.requirement?) := by
  induction cs with
  | nil => rfl
  | cons c cs ih =>
    obtain ⟨x, hx⟩ := p.selected_isOk (hcs c List.mem_cons_self)
    have hrest := ih fun d hd => hcs d (List.mem_cons_of_mem c hd)
    have hfirst : p.requirement? c = x.map fun x => c.requirement [x] := by
      rw [requirement?, hx]
      cases x <;> rfl
    rw [requirements?, hx, hrest, List.filterMap_cons, hfirst]
    cases x <;> rfl

private theorem description?_eq_ok (p : UsablePolicy) : p.description? = .ok p.description := by
  rw [description?, p.required?_eq, p.requirements?_eq_ok fun c hc => hc]
  rfl

private theorem check?_eq_ok (p : UsablePolicy) (password : Text) :
    p.check? (some password) = .ok (.ofPolicy p password) := by
  rw [check?, p.required?_eq]
  rfl

end UsablePolicy

variable {mask alphabet : Json} {entries : List Json} {password : Option Text} {e : MaskError}
  {p : UsablePolicy}

private theorem Mask.eq_malformed_of_ofValue (h : Mask.ofValue mask = .error e) :
    e = .malformed mask.plain := by
  unfold Mask.ofValue at h
  split at h
  · cases h
  · exact (Except.error.inj h).symm

/-- Parsing does not break off when the mask can be written and the alphabet has elements. -/
theorem Policy.parse?_eq_ok (hmask : mask.writable = true)
    (halphabet : alphabet.elements? = some entries) :
    Policy.parse? mask alphabet = .ok (Policy.parse mask entries) := by
  unfold Policy.parse?
  cases hm : Mask.ofValue mask with
  | error e =>
    have hparse : Policy.parse mask entries = .error e := by
      rw [Policy.parse, hm]
      rfl
    rw [hparse]
    exact if_pos hmask
  | ok m =>
    dsimp only
    rw [halphabet]

/-- An error is about the mask itself, which can be written, or about the elements of the alphabet.
-/
theorem Policy.error_of_parse? (h : Policy.parse? mask alphabet = .ok (.error e)) :
    e = .malformed mask.plain ∧ mask.writable = true ∨
      ∃ entries, alphabet.elements? = some entries ∧ Policy.parse mask entries = .error e := by
  unfold Policy.parse? at h
  split at h
  · next e' hm =>
    split at h
    · next hmask =>
      obtain rfl := Except.error.inj (Except.ok.inj h)
      exact .inl ⟨Mask.eq_malformed_of_ofValue hm, hmask⟩
    · cases h
  · split at h
    · cases h
    · next entries hentries => exact .inr ⟨entries, hentries, Except.ok.inj h⟩

private theorem Policy.mem_of_parse {entry : Json}
    (h : Policy.parse mask entries = .error (.notCharacter entry)) : entry ∈ entries := by
  rw [Policy.parse] at h
  cases hm : Mask.ofValue mask with
  | error e =>
    rw [hm] at h
    obtain rfl : e = .notCharacter entry := Except.error.inj h
    cases Mask.eq_malformed_of_ofValue hm
  | ok m =>
    rw [hm] at h
    cases ha : Alphabet.normalize entries with
    | error e =>
      rw [ha] at h
      obtain rfl : e = .notCharacter entry := Except.error.inj h
      obtain ⟨_, ⟨before, after, rfl, -⟩, ⟨⟩⟩ := Alphabet.normalize_eq_error_iff.mp ha
      exact List.mem_append_right before List.mem_cons_self
    | ok characters =>
      rw [ha] at h
      have hempty : m.usablePolicy characters = .error (.notCharacter entry) := h
      cases (Mask.usablePolicy_eq_error_iff.mp hempty).2.2

/-- What parsing fails with can be written when the entries can. -/
theorem Policy.writable_of_parse (h : Policy.parse mask entries = .error e)
    (hentries : ∀ x ∈ entries, x.writable = true) : e.fault.Writable := by
  cases e with
  | malformed mask => rfl
  | notCharacter entry =>
    exact MaskError.writable_notCharacter_iff.mpr (hentries entry (mem_of_parse h))
  | emptyAlphabet => rfl

/-- A check of a mask that cannot be used shows the message of the error. -/
theorem validate?_of_error (h : Policy.parse? mask alphabet = .ok (.error e)) :
    validate? password mask alphabet =
      e.fault.message?.map fun message => ⟨false, [message], none⟩ := by
  rw [validate?, h]

/-- A check of a mask that can be used is a check against its policy. -/
theorem validate?_of_ok (h : Policy.parse? mask alphabet = .ok (.ok p)) (password : Text) :
    validate? (some password) mask alphabet = .ok (.ofPolicy p password) := by
  rw [validate?, h]
  exact p.check?_eq_ok password

/-- A description of a mask that cannot be used shows the message of the error. -/
theorem describe?_of_error (h : Policy.parse? mask alphabet = .ok (.error e)) :
    describe? mask alphabet = e.fault.message?.map fun message => { error := some message } := by
  rw [describe?, h]

/-- A description of a mask that can be used is that of its policy. -/
theorem describe?_of_ok (h : Policy.parse? mask alphabet = .ok (.ok p)) :
    describe? mask alphabet = .ok p.description := by
  rw [describe?, h]
  simp only [p.description?_eq_ok]
  rfl

variable {σ : Type}

/-- A generation for a mask that cannot be used reports the error, and nothing is drawn. -/
theorem generate?_of_error (h : Policy.parse? mask alphabet = .ok (.error e)) (source : Source σ)
    (requested : Option Int) (state : σ) :
    generate? source mask alphabet requested state = (.ok (.error (.unusable e)), state) := by
  rw [generate?, h]

/-- A generation for a mask that can be used is one of its policy. -/
theorem generate?_of_ok (h : Policy.parse? mask alphabet = .ok (.ok p)) (source : Source σ)
    (requested : Option Int) (state : σ) :
    generate? source mask alphabet requested state =
      (.ok (p.generate source mask.plain requested state).1,
        (p.generate source mask.plain requested state).2) := by
  rw [generate?, h]

end MaskPolicy
