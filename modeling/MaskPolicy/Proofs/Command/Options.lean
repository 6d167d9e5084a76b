import MaskPolicy.Command.Assignment

/-!
# Where values come from

Words mention no other options than those they are read for. So every value that a command is called
with is one that an option of the command has. Values are read from variables and files, but from no
other variables than those of the options of the command, and of a file nothing counts but whether
it is there.
-/

namespace MaskPolicy.Command

/-- A result comes from a result. -/
theorem exists_of_map_eq_ok {ε α β : Type} {f : α → β} {x : Except ε α} {b : β}
    (h : x.map f = .ok b) : ∃ a, x = .ok a ∧ f a = b := by
  cases x with
  | error e => cases h
  | ok a =>
    cases h
    exact ⟨a, rfl, rfl⟩

private theorem exists_of_bind_eq_ok {ε α β : Type} {x : Except ε α} {f : α → Except ε β} {b : β}
    (h : x >>= f = .ok b) : ∃ a, x = .ok a ∧ f a = .ok b := by
  cases x with
  | error e => cases h
  | ok a => exact ⟨a, rfl, h⟩

private theorem eq_ok_of_mapError_eq_ok {ε ε' α : Type} {f : ε → ε'} {x : Except ε α} {a : α}
    (h : x.mapError f = .ok a) : x = .ok a := by
  cases x with
  | error e => cases h
  | ok a' =>
    cases h
    rfl

variable {options : List OptionSpec}

/-- What a word says is about some options. -/
structure WordReading.Within (options : List OptionSpec) (r : WordReading) : Prop where
  mentioned : ∀ x ∈ r.occurrences, x.option ∈ options
  pending : ∀ p ∈ r.pending, p.1 ∈ options

/-- An option stays among the options when it is put in front. -/
theorem WordReading.Within.cons {r : WordReading} (h : r.Within options) {x : Occurrence}
    (hx : x.option ∈ options) : (r.cons x).Within options where
  mentioned := List.forall_mem_cons.mpr ⟨hx, h.mentioned⟩
  pending := h.pending

private theorem WordReading.within_nothing : WordReading.Within options ⟨[], none⟩ where
  mentioned := List.forall_mem_nil _
  pending _ h := absurd h (Option.not_mem_none _)

private theorem WordReading.within_single {x : Occurrence} (hx : x.option ∈ options) :
    WordReading.Within options ⟨[x], none⟩ where
  mentioned := List.forall_mem_singleton.mpr hx
  pending _ h := absurd h (Option.not_mem_none _)

private theorem WordReading.within_pending {o : OptionSpec} (ho : o ∈ options) (name : Text) :
    WordReading.Within options ⟨[], some (o, name)⟩ where
  mentioned := List.forall_mem_nil _
  pending := by
    rintro _ ⟨⟩
    exact ho

private theorem mem_of_findLong? {name : Text} {o : OptionSpec} {m : Option Mention}
    (h : findLong? options name = some (o, m)) : o ∈ options := by
  obtain ⟨p, hp, hfound⟩ := List.exists_of_findSome?_eq_some h
  split at hfound
  · split at hfound
    · cases hfound
      exact hp
    · cases hfound
  · split at hfound
    · cases hfound
      exact hp
    · split at hfound
      · cases hfound
        exact hp
      · cases hfound

private theorem within_of_readLong {o : OptionSpec} (ho : o ∈ options) {name : Text}
    {value : Option Text} {m : Option Mention} {r : WordReading}
    (h : readLong o name value m = .ok r) : r.Within options := by
  cases m <;> cases value <;> cases h
  · exact WordReading.within_pending ho name
  · exact WordReading.within_single ho
  · exact WordReading.within_single ho

private theorem within_of_readLetters {word : Text} {r : WordReading}
    (h : readLetters options word = .ok r) : r.Within options := by
  induction word generalizing r with
  | nil =>
    cases h
    exact WordReading.within_nothing
  | cons c rest ih =>
    rw [readLetters.eq_def] at h
    dsimp only at h
    split at h
    · cases h
    · next o hfind =>
      have ho := List.mem_of_find?_eq_some hfind
      split at h
      · obtain ⟨r', hr', rfl⟩ := exists_of_map_eq_ok h
        exact (ih hr').cons ho
      · split at h
        · cases h
          exact WordReading.within_pending ho _
        · cases h
          exact WordReading.within_single ho

/-- A word that mentions options is about them. -/
theorem within_of_readWord {word : Text} {r : WordReading} (h : readWord options word = .ok r) :
    r.Within options := by
  unfold readWord at h
  dsimp only at h
  split at h
  · next hfind => exact within_of_readLong (mem_of_findLong? hfind) h
  · split at h
    · cases h
    · exact within_of_readLetters h

/-- Words only mention the options that they are read for. -/
theorem mem_of_readWords {mixed : Bool} {words : List Text} {ws : Words}
    (h : readWords options mixed words = .ok ws) : ∀ x ∈ ws.occurrences, x.option ∈ options := by
  fun_induction readWords options mixed words generalizing ws with
  | case1 =>
    cases h
    exact List.forall_mem_nil _
  | case2 =>
    cases h
    exact List.forall_mem_nil _
  | case3 => cases h
  | case4 word rest hdashes hoption os hread ih =>
    obtain ⟨ws', hws', rfl⟩ := exists_of_map_eq_ok h
    exact List.forall_mem_append.mpr ⟨(within_of_readWord hread).mentioned, ih hws'⟩
  | case5 => cases h
  | case6 word hdashes hoption os o name hread value rest ih =>
    obtain ⟨ws', hws', rfl⟩ := exists_of_map_eq_ok h
    have hword := within_of_readWord hread
    have ho : o ∈ options := hword.pending (o, name) rfl
    exact List.forall_mem_append.mpr
      ⟨List.forall_mem_append.mpr ⟨hword.mentioned, List.forall_mem_singleton.mpr ho⟩, ih hws'⟩
  | case7 word rest hdashes hoption hmixed ih =>
    obtain ⟨ws', hws', rfl⟩ := exists_of_map_eq_ok h
    have hrest := ih hws'
    exact hrest
  | case8 =>
    cases h
    exact List.forall_mem_nil _

private theorem Words.options_subset (ws : Words) :
    ws.options ⊆ ws.occurrences.map Occurrence.option := by
  -- The options seen so far are among those of the mentions, too.
  suffices h : ∀ (os seen : List OptionSpec),
      os.foldl (fun seen o => if seen.any fun p => p.key = o.key then seen else seen ++ [o]) seen ⊆
        seen ++ os by
    rw [Words.options]
    exact h _ []
  intro os
  induction os with
  | nil => simp
  | cons o os ih =>
    intro seen x hx
    have hmem := ih _ hx
    dsimp only at hmem
    split at hmem
    · rcases List.mem_append.mp hmem with hseen | hos
      · exact List.mem_append_left _ hseen
      · exact List.mem_append_right _ (List.mem_cons_of_mem _ hos)
    · simpa using hmem

/-- The options that some words mention are among those they are read for. -/
theorem options_subset_of_readWords {mixed : Bool} {words : List Text} {ws : Words}
    (h : readWords options mixed words = .ok ws) : ws.options ⊆ options := by
  intro o ho
  obtain ⟨x, hx, rfl⟩ := List.mem_map.mp (ws.options_subset ho)
  exact mem_of_readWords h x hx

namespace Inputs

/-- Each value is one that an option of the key has. -/
theorem exists_option_of_values {i : Inputs} {os : List OptionSpec} {vs : List (Text × Value)}
    (h : i.values os = .ok vs) {k : Text} {v : Value} (hv : (k, v) ∈ vs) :
    ∃ o ∈ os, o.key = k ∧ i.value? o = .ok (some v) := by
  induction os generalizing vs with
  | nil =>
    cases h
    cases hv
  | cons o os ih =>
    rw [values] at h
    split at h
    · cases h
    · next found hfound =>
      obtain ⟨rest, hrest, rfl⟩ := exists_of_map_eq_ok h
      rcases List.mem_append.mp hv with hfirst | hlater
      · cases found with
        | none => cases hfirst
        | some w =>
          obtain ⟨rfl, rfl⟩ := Prod.mk.inj (List.mem_singleton.mp hfirst)
          exact ⟨o, List.mem_cons_self, rfl, hfound⟩
      · obtain ⟨p, hp, hkey, hvalue⟩ := ih hrest hlater
        exact ⟨p, List.mem_cons_of_mem _ hp, hkey, hvalue⟩

/-- The options of a command that its words do not mention. -/
def unmentioned (i : Inputs) (spec : CommandSpec) : List OptionSpec :=
  spec.options.filter fun o => !i.words.options.any fun p => p.key = o.key

/-- The options among some that show a page. -/
def paged (os : List OptionSpec) : List OptionSpec := (os.partition fun o => o.page.isSome).1

/-- The options among some that show no page. -/
def pageless (os : List OptionSpec) : List OptionSpec := (os.partition fun o => o.page.isSome).2

private theorem paged_subset (os : List OptionSpec) : paged os ⊆ os := by
  rw [paged, List.partition_eq_filter_filter]
  exact List.filter_sublist.subset

private theorem pageless_subset (os : List OptionSpec) : pageless os ⊆ os := by
  rw [pageless, List.partition_eq_filter_filter]
  exact List.filter_sublist.subset

/-- The values of a call are those of the options that are mentioned and then those of the others.
-/
theorem exists_values_of_assign {i : Inputs} {spec : CommandSpec} {a : Assignment}
    (h : i.assign spec = .ok a) : ∃ before after,
      i.values (pageless i.words.options) = .ok before ∧
      i.values (pageless (i.unmentioned spec)) = .ok after ∧
      a = ⟨before ++ after, i.words.arguments⟩ := by
  unfold assign at h
  dsimp only at h
  split at h
  · cases h
  · cases h
  · obtain ⟨before, hbefore, h⟩ := exists_of_bind_eq_ok (eq_ok_of_mapError_eq_ok h)
    obtain ⟨-, -, h⟩ := exists_of_bind_eq_ok h
    obtain ⟨after, hafter, h⟩ := exists_of_bind_eq_ok h
    exact ⟨before, after, hbefore, hafter, (Except.ok.inj h).symm⟩

/-- Each value of a call is one that an option of the command has. -/
theorem exists_option_of_assign {i : Inputs} {spec : CommandSpec}
    (hwithin : i.words.options ⊆ spec.options) {a : Assignment} (h : i.assign spec = .ok a)
    {k : Text} {v : Value} (hv : (k, v) ∈ a.values) :
    ∃ o ∈ spec.options, o.key = k ∧ i.value? o = .ok (some v) := by
  obtain ⟨before, after, hbefore, hafter, rfl⟩ := exists_values_of_assign h
  rcases List.mem_append.mp hv with hfirst | hlast
  · obtain ⟨o, ho, hkey, hvalue⟩ := exists_option_of_values hbefore hfirst
    exact ⟨o, hwithin (pageless_subset _ ho), hkey, hvalue⟩
  · obtain ⟨o, ho, hkey, hvalue⟩ := exists_option_of_values hafter hlast
    exact ⟨o, (List.mem_filter.mp (pageless_subset _ ho)).1, hkey, hvalue⟩

/-- An integer given to an option with bounds is within them. -/
theorem inRange_of_value? {i : Inputs} {o : OptionSpec} {low : Int} {high : Option Int}
    (hform : o.form = .valued (.range low high)) {n : Int} (h : i.value? o = .ok (some (.int n))) :
    inRange low high n = true := by
  -- Only a text can give an integer, from a word or from a variable.
  have hread : ∀ t, (i.read o t).map some = .ok (some (.int n)) → inRange low high n = true := by
    intro t ht
    obtain ⟨v, hv, hint⟩ := exists_of_map_eq_ok ht
    obtain rfl := Option.some.inj hint
    have hvalue : o.read i.files t = .ok (.int n) := eq_ok_of_mapError_eq_ok hv
    rw [OptionSpec.read, hform] at hvalue
    exact ValueKind.inRange_of_read hvalue
  unfold value? at h
  split at h
  · cases h
  · cases h
  · exact hread _ h
  · split at h
    · cases h
    · cases h
    · exact hread _ h

end Inputs

/-- Each value that is read for a command is one that an option of the command has. -/
theorem exists_option_of_read {spec : CommandSpec} {mixed : Bool} {lookup : Text → Option Text}
    {files : Text → FileState} {words : List Text} {a : Assignment}
    (h : spec.read mixed lookup files words = .ok a) {o : OptionSpec} {v : Value}
    (hv : a.value? o = some v) :
    ∃ (i : Inputs), ∃ p ∈ spec.options, p.key = o.key ∧ i.value? p = .ok (some v) := by
  unfold CommandSpec.read at h
  split at h
  · cases h
  · next ws hws =>
    obtain ⟨⟨k, v'⟩, hfind, rfl⟩ := Option.map_eq_some_iff.mp hv
    have hwithin := options_subset_of_readWords hws
    obtain ⟨p, hp, hkey, hvalue⟩ :=
      Inputs.exists_option_of_assign hwithin h (List.mem_of_find?_eq_some hfind)
    have hk : k = o.key := by simpa using List.find?_some hfind
    exact ⟨_, p, hp, hkey.trans hk, hvalue⟩

/-- What a name stands for, whatever a file holds. -/
def FileState.emptied : FileState → FileState
  | .file _ => .file []
  | state => state

/-- A value is read in the same way when the files are emptied. -/
theorem ValueKind.read_emptied (files : Text → FileState) (t : Text) (kind : ValueKind) :
    kind.read (fun name => (files name).emptied) t = kind.read files t := by
  cases kind with
  | file =>
    simp only [read]
    cases files t <;> rfl
  | _ => rfl

/-- A value does not depend on what files hold. -/
theorem ValueKind.read_congr {files files' : Text → FileState}
    (hfiles : ∀ t, (files t).emptied = (files' t).emptied) (t : Text) (kind : ValueKind) :
    kind.read files t = kind.read files' t := by
  rw [← read_emptied files, ← read_emptied files', funext hfiles]

/-- Two inputs are the same for some options: the words, the variables of the options, and what the
names of files stand for. -/
structure Inputs.Agree (os : List OptionSpec) (i j : Inputs) : Prop where
  words : i.words = j.words
  lookup : ∀ o ∈ os, i.lookup o.key = j.lookup o.key
  files : ∀ t, (i.files t).emptied = (j.files t).emptied

namespace Inputs

variable {os : List OptionSpec} {i j : Inputs}

/-- An option has the same value. -/
theorem Agree.value? (h : Agree os i j) {o : OptionSpec} (ho : o ∈ os) :
    i.value? o = j.value? o := by
  have hread : ∀ t, i.read o t = j.read o t := by
    intro t
    rw [read, read, OptionSpec.read, OptionSpec.read]
    cases o.form with
    | valued kind => simp only [ValueKind.read_congr h.files]
    | switch off => rfl
  simp only [Inputs.value?, h.words, h.lookup o ho, hread]

/-- Options have the same values. -/
theorem Agree.values (h : Agree os i j) {os' : List OptionSpec} (hsub : os' ⊆ os) :
    i.values os' = j.values os' := by
  induction os' with
  | nil => rfl
  | cons o rest ih =>
    obtain ⟨ho, hrest⟩ := List.cons_subset.mp hsub
    rw [Inputs.values, Inputs.values, h.value? ho, ih hrest]

/-- Options ask for the same page. -/
theorem Agree.page? (h : Agree os i j) {os' : List OptionSpec} (hsub : os' ⊆ os) :
    i.page? os' = j.page? os' := by
  induction os' with
  | nil => rfl
  | cons o rest ih =>
    obtain ⟨ho, hrest⟩ := List.cons_subset.mp hsub
    rw [Inputs.page?, Inputs.page?, h.value? ho, ih hrest]

/-- A command gets the same values. -/
theorem Agree.assign {spec : CommandSpec} (h : Agree spec.options i j)
    (hwithin : i.words.options ⊆ spec.options) : i.assign spec = j.assign spec := by
  have hrest : i.unmentioned spec ⊆ spec.options := List.filter_sublist.subset
  have hpage := h.page? <| List.append_subset.mpr
    ⟨List.Subset.trans (paged_subset _) hwithin, List.Subset.trans (paged_subset _) hrest⟩
  have hfirst := h.values (List.Subset.trans (pageless_subset _) hwithin)
  have hlast := h.values (List.Subset.trans (pageless_subset _) hrest)
  simp only [paged, pageless, unmentioned] at hpage hfirst hlast
  simp only [Inputs.assign, ← h.words, hpage, hfirst, hlast]

end Inputs

/-- A command reads no other variables than those of its options, and not what files hold. -/
theorem CommandSpec.read_congr {spec : CommandSpec} {lookup lookup' : Text → Option Text}
    {files files' : Text → FileState}
    (hlookup : ∀ o ∈ spec.options, lookup o.key = lookup' o.key)
    (hfiles : ∀ t, (files t).emptied = (files' t).emptied) (mixed : Bool) (words : List Text) :
    spec.read mixed lookup files words = spec.read mixed lookup' files' words := by
  unfold CommandSpec.read
  split
  · rfl
  · next ws hws =>
    exact Inputs.Agree.assign ⟨rfl, hlookup, hfiles⟩ (options_subset_of_readWords hws)

end MaskPolicy.Command
