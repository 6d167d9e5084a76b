import MaskPolicy.Proofs.Json.Scalar

/-!
# Values read back from JSON

What the printer writes for a value is read back as the value, on one line or indented, at any depth
and in front of anything that cannot go on a number. Numbers with a fraction or an exponent are left
out.
-/

namespace MaskPolicy.Json

/-- A value none of whose numbers has a fraction or an exponent. -/
inductive Exact : Json → Prop where
  | null : Exact .null
  | bool (b : Bool) : Exact (.bool b)
  | int (n : Int) : Exact (.int n)
  | str (t : Text) : Exact (.str t)
  | arr {items : List Json} : (∀ v ∈ items, Exact v) → Exact (.arr items)
  | obj {members : List (Text × Json)} : (∀ m ∈ members, Exact m.2) → Exact (.obj members)

private theorem skipSpace_append {blank : Text} (h : ∀ c ∈ blank, isSpace c = true) (rest : Text) :
    skipSpace (blank ++ rest) = skipSpace rest :=
  List.dropWhile_append_of_pos h

private theorem isSpace_of_mem_newline {l : Spacing} {depth : Nat} {c : Char}
    (h : c ∈ l.newline depth) : isSpace c = true := by
  unfold Spacing.newline at h
  split at h
  · cases h
  · rcases List.mem_cons.mp h with rfl | hc
    · rfl
    · rw [List.eq_of_mem_replicate hc]
      rfl

private theorem skipSpace_newline (l : Spacing) (depth : Nat) (rest : Text) :
    skipSpace (l.newline depth ++ rest) = skipSpace rest :=
  skipSpace_append (fun _ hc => isSpace_of_mem_newline hc) rest

private theorem exists_colon_eq (l : Spacing) :
    ∃ blank, l.colon = ':' :: blank ∧ ∀ c ∈ blank, isSpace c = true := by
  unfold Spacing.colon
  split
  · exact ⟨[' '], rfl, List.forall_mem_singleton.mpr rfl⟩
  · exact ⟨[], rfl, List.forall_mem_nil _⟩

/-- A value that is read back from its written form, wherever that stands. -/
structure ReadsBack (v : Json) : Prop where
  /-- The written form starts with what is no blank and closes no array. -/
  exists_head : ∀ (l : Spacing) (depth : Nat),
    ∃ c t, write l depth v = c :: t ∧ isSpace c = false ∧ c ≠ ']'
  /-- Fuel for each written character is enough. -/
  readValue_write : ∀ (l : Spacing) (depth fuel : Nat) (rest : Text),
    (write l depth v).length ≤ fuel → EndsNumber rest →
      readValue fuel (write l depth v ++ rest) = some (v, rest)

namespace ReadsBack

variable {v : Json}

private theorem skipSpace_write (h : v.ReadsBack) (l : Spacing) (depth : Nat) (rest : Text) :
    skipSpace (write l depth v ++ rest) = write l depth v ++ rest := by
  obtain ⟨c, t, hct, hc, -⟩ := h.exists_head l depth
  rw [hct, List.cons_append, skipSpace, List.dropWhile_cons_of_neg (by simp [hc])]

private theorem of_succ
    (hhead : ∀ (l : Spacing) (depth : Nat),
      ∃ c t, write l depth v = c :: t ∧ isSpace c = false ∧ c ≠ ']')
    (hread : ∀ (l : Spacing) (depth fuel : Nat) (rest : Text),
      (write l depth v).length ≤ fuel + 1 → EndsNumber rest →
        readValue (fuel + 1) (write l depth v ++ rest) = some (v, rest)) : v.ReadsBack where
  exists_head := hhead
  readValue_write l depth fuel rest hfuel hrest := by
    obtain ⟨c, t, hct, -, -⟩ := hhead l depth
    cases fuel with
    | zero => simp [hct] at hfuel
    | succ fuel => exact hread l depth fuel rest hfuel hrest

end ReadsBack

/-- An integer is read back. -/
theorem readsBack_int (n : Int) : (int n).ReadsBack := by
  refine .of_succ (fun l depth => ?_) fun l depth fuel rest _ hrest => readValue_ofInt n fuel hrest
  obtain ⟨c, t, hct, hc⟩ := exists_ofInt_eq_cons n
  refine ⟨c, t, hct, ?_, ?_⟩
  · simp only [isSpace, Bool.or_eq_false_iff, decide_eq_false_iff_not]
    refine ⟨⟨⟨?_, ?_⟩, ?_⟩, ?_⟩ <;> rintro rfl <;> revert hc <;> decide
  · rintro rfl
    revert hc
    decide

/-- A string is read back. -/
theorem readsBack_str (t : Text) : (str t).ReadsBack := by
  refine .of_succ (fun l depth => ⟨'"', _, rfl, rfl, by decide⟩) fun l depth fuel rest _ _ => ?_
  have hshape : write l depth (str t) ++ rest = '"' :: (t.flatMap escapeChar ++ '"' :: rest) := by
    simp only [write, string, List.append_assoc, List.cons_append, List.nil_append]
  rw [hshape, readValue, readString_flatMap_escapeChar]
  rfl

/-- The items of an array are read back through the closing bracket. -/
theorem readItems_write {item : Json} {more : List Json} (hitem : item.ReadsBack)
    (hmore : ∀ v ∈ more, v.ReadsBack) (l : Spacing) (depth fuel : Nat) {blank : Text}
    (hblank : ∀ c ∈ blank, isSpace c = true) (rest : Text)
    (hfuel : (write l depth item ++ writeItems l depth more).length < fuel) :
    readItems fuel (write l depth item ++ writeItems l depth more ++ (blank ++ ']' :: rest)) =
      some (item :: more, rest) := by
  induction more generalizing item fuel with
  | nil =>
    obtain ⟨fuel, rfl⟩ : ∃ n, fuel = n + 1 := ⟨fuel - 1, by omega⟩
    rw [writeItems, List.append_nil] at hfuel ⊢
    have hread := hitem.readValue_write l depth fuel (blank ++ ']' :: rest) (by omega)
      ((endsNumber_cons rfl rest).append hblank)
    have hclose : skipSpace (blank ++ ']' :: rest) = ']' :: rest := skipSpace_append hblank _
    simp only [readItems, hread, bind, Option.bind_some, hclose]
    rfl
  | cons next more ih =>
    obtain ⟨fuel, rfl⟩ : ∃ n, fuel = n + 1 := ⟨fuel - 1, by omega⟩
    rw [writeItems] at hfuel ⊢
    simp only [List.length_append, List.length_cons] at hfuel
    let after := write l depth next ++ writeItems l depth more ++ (blank ++ ']' :: rest)
    have hshape : write l depth item ++
        (',' :: l.newline depth ++ write l depth next ++ writeItems l depth more) ++
          (blank ++ ']' :: rest) = write l depth item ++ ',' :: (l.newline depth ++ after) := by
      simp only [after, List.append_assoc, List.cons_append]
    have hread := hitem.readValue_write l depth fuel (',' :: (l.newline depth ++ after)) (by omega)
      (endsNumber_cons rfl _)
    have hcomma : skipSpace (',' :: (l.newline depth ++ after)) =
        ',' :: (l.newline depth ++ after) := rfl
    have hafter : skipSpace (l.newline depth ++ after) = after := by
      rw [skipSpace_newline]
      simp only [after, List.append_assoc]
      exact (hmore next List.mem_cons_self).skipSpace_write l depth _
    have hrest : readItems fuel after = some (next :: more, rest) :=
      ih (hmore next List.mem_cons_self) (fun v hv => hmore v (List.mem_cons_of_mem _ hv)) fuel
        (by rw [List.length_append]; omega)
    rw [hshape]
    simp only [readItems, hread, bind, Option.bind_some, hcomma, hafter, hrest]
    rfl

private theorem readMembers_member {name : Text} {value : Json} (hvalue : value.ReadsBack)
    (l : Spacing) (depth fuel : Nat) {rest : Text} (hrest : EndsNumber rest)
    (hfuel : (write l depth value).length ≤ fuel) :
    (∀ r, skipSpace rest = '}' :: r →
      readMembers (fuel + 1) (string name ++ l.colon ++ write l depth value ++ rest) =
        some ([(name, value)], r)) ∧
    (∀ r read, skipSpace rest = ',' :: r → readMembers fuel (skipSpace r) = some read →
      readMembers (fuel + 1) (string name ++ l.colon ++ write l depth value ++ rest) =
        some ((name, value) :: read.1, read.2)) := by
  obtain ⟨blank, hcolon, hblank⟩ := exists_colon_eq l
  have hshape : string name ++ l.colon ++ write l depth value ++ rest =
      '"' :: (name.flatMap escapeChar ++
        '"' :: ':' :: (blank ++ (write l depth value ++ rest))) := by
    simp only [string, hcolon, List.append_assoc, List.cons_append, List.nil_append]
  have hname : skipSpace (':' :: (blank ++ (write l depth value ++ rest))) =
      ':' :: (blank ++ (write l depth value ++ rest)) := rfl
  have hspace : skipSpace (blank ++ (write l depth value ++ rest)) =
      write l depth value ++ rest := by
    rw [skipSpace_append hblank, hvalue.skipSpace_write]
  have hread := hvalue.readValue_write l depth fuel rest hfuel hrest
  constructor
  · intro r hr
    simp only [hshape, readMembers, readString_flatMap_escapeChar, bind, Option.bind_some, hname,
      hspace, hread, hr]
    rfl
  · intro r read hr hmore
    simp only [hshape, readMembers, readString_flatMap_escapeChar, bind, Option.bind_some, hname,
      hspace, hread, hr, hmore]
    rfl

/-- The members of an object are read back through the closing brace. -/
theorem readMembers_write {name : Text} {value : Json} {more : List (Text × Json)}
    (hvalue : value.ReadsBack) (hmore : ∀ m ∈ more, m.2.ReadsBack) (l : Spacing) (depth fuel : Nat)
    {blank : Text} (hblank : ∀ c ∈ blank, isSpace c = true) (rest : Text)
    (hfuel : (write l depth value ++ writeMembers l depth more).length < fuel) :
    readMembers fuel (string name ++ l.colon ++ write l depth value ++ writeMembers l depth more ++
      (blank ++ '}' :: rest)) = some ((name, value) :: more, rest) := by
  induction more generalizing name value fuel with
  | nil =>
    obtain ⟨fuel, rfl⟩ : ∃ n, fuel = n + 1 := ⟨fuel - 1, by omega⟩
    rw [writeMembers, List.append_nil] at hfuel ⊢
    have hclose : skipSpace (blank ++ '}' :: rest) = '}' :: rest := skipSpace_append hblank _
    exact (readMembers_member hvalue l depth fuel ((endsNumber_cons rfl rest).append hblank)
      (by omega)).1 rest hclose
  | cons next more ih =>
    obtain ⟨nextName, nextValue⟩ := next
    obtain ⟨fuel, rfl⟩ : ∃ n, fuel = n + 1 := ⟨fuel - 1, by omega⟩
    rw [writeMembers] at hfuel ⊢
    simp only [List.length_append, List.length_cons] at hfuel
    let after := string nextName ++ l.colon ++ write l depth nextValue ++
      writeMembers l depth more ++ (blank ++ '}' :: rest)
    have hshape : string name ++ l.colon ++ write l depth value ++
        (',' :: l.newline depth ++ string nextName ++ l.colon ++ write l depth nextValue ++
          writeMembers l depth more) ++ (blank ++ '}' :: rest) =
        string name ++ l.colon ++ write l depth value ++ ',' :: (l.newline depth ++ after) := by
      simp only [after, List.append_assoc, List.cons_append]
    have hcomma : skipSpace (',' :: (l.newline depth ++ after)) =
        ',' :: (l.newline depth ++ after) := rfl
    have hafter : skipSpace (l.newline depth ++ after) = after := by
      rw [skipSpace_newline]
      rfl
    have hrest : readMembers fuel after = some ((nextName, nextValue) :: more, rest) :=
      ih (hmore _ List.mem_cons_self) (fun m hm => hmore m (List.mem_cons_of_mem _ hm)) fuel
        (by simp only [List.length_append]; omega)
    rw [hshape]
    exact (readMembers_member hvalue l depth fuel (endsNumber_cons rfl _) (by omega)).2 _
      (_, rest) hcomma (by rw [hafter, hrest])

private theorem readValue_bracket {fuel : Nat} {t rest : Text} {items : List Json}
    (hne : ∀ r, skipSpace t ≠ ']' :: r) (h : readItems fuel (skipSpace t) = some (items, rest)) :
    readValue (fuel + 1) ('[' :: t) = some (.arr items, rest) := by
  rw [readValue]
  split
  · next r hr => exact absurd hr (hne r)
  · rw [h]
    rfl

private theorem readValue_brace {fuel : Nat} {t rest : Text} {members : List (Text × Json)}
    (hne : ∀ r, skipSpace t ≠ '}' :: r)
    (h : readMembers fuel (skipSpace t) = some (members, rest)) :
    readValue (fuel + 1) ('{' :: t) = some (.obj members, rest) := by
  rw [readValue]
  split
  · next r hr => exact absurd hr (hne r)
  · rw [h]
    rfl

/-- An array is read back when its items are. -/
theorem readsBack_arr {items : List Json} (h : ∀ v ∈ items, v.ReadsBack) :
    (arr items).ReadsBack := by
  refine .of_succ (fun l depth => ?_) fun l depth fuel rest hfuel _ => ?_
  · cases items <;> exact ⟨'[', _, rfl, rfl, by decide⟩
  · cases items with
    | nil => rfl
    | cons item more =>
      have hitem := h item List.mem_cons_self
      rw [write] at hfuel ⊢
      simp only [List.length_append, List.length_cons] at hfuel
      let inner := write l (depth + 1) item ++ writeItems l (depth + 1) more ++
        (l.newline depth ++ ']' :: rest)
      have hshape : ('[' :: l.newline (depth + 1) ++ write l (depth + 1) item ++
          writeItems l (depth + 1) more ++ l.newline depth ++ [']']) ++ rest =
            '[' :: (l.newline (depth + 1) ++ inner) := by
        simp only [inner, List.append_assoc, List.cons_append, List.nil_append]
      have hinner : skipSpace (l.newline (depth + 1) ++ inner) = inner := by
        rw [skipSpace_newline]
        simp only [inner, List.append_assoc]
        exact hitem.skipSpace_write l (depth + 1) _
      have hread : readItems fuel inner = some (item :: more, rest) :=
        readItems_write hitem (fun v hv => h v (List.mem_cons_of_mem _ hv)) l (depth + 1) fuel
          (fun c hc => isSpace_of_mem_newline hc) rest (by rw [List.length_append]; omega)
      rw [hshape]
      refine readValue_bracket ?_ (by rw [hinner, hread])
      intro r hr
      obtain ⟨c, t, hct, -, hc⟩ := hitem.exists_head l (depth + 1)
      rw [hinner] at hr
      simp only [inner, hct, List.cons_append] at hr
      exact hc (List.cons.inj hr).1

/-- An object is read back when the values of its members are. -/
theorem readsBack_obj {members : List (Text × Json)} (h : ∀ m ∈ members, m.2.ReadsBack) :
    (obj members).ReadsBack := by
  refine .of_succ (fun l depth => ?_) fun l depth fuel rest hfuel _ => ?_
  · match members with
    | [] => exact ⟨'{', _, rfl, rfl, by decide⟩
    | (_, _) :: _ => exact ⟨'{', _, rfl, rfl, by decide⟩
  · match members with
    | [] => rfl
    | (name, value) :: more =>
      rw [write] at hfuel ⊢
      simp only [List.length_append, List.length_cons] at hfuel
      let inner := string name ++ l.colon ++ write l (depth + 1) value ++
        writeMembers l (depth + 1) more ++ (l.newline depth ++ '}' :: rest)
      have hshape : ('{' :: l.newline (depth + 1) ++ string name ++ l.colon ++
          write l (depth + 1) value ++ writeMembers l (depth + 1) more ++ l.newline depth ++
            ['}']) ++ rest = '{' :: (l.newline (depth + 1) ++ inner) := by
        simp only [inner, List.append_assoc, List.cons_append, List.nil_append]
      have hinner : skipSpace (l.newline (depth + 1) ++ inner) = inner :=
        skipSpace_newline l (depth + 1) inner
      have hread : readMembers fuel inner = some ((name, value) :: more, rest) :=
        readMembers_write (h _ List.mem_cons_self)
          (fun m hm => h m (List.mem_cons_of_mem _ hm)) l (depth + 1) fuel
          (fun c hc => isSpace_of_mem_newline hc) rest
          (by simp only [List.length_append]; omega)
      rw [hshape]
      refine readValue_brace ?_ (by rw [hinner, hread])
      intro r hr
      rw [hinner] at hr
      exact nomatch (List.cons.inj hr).1

/-- Every exact value is read back. -/
theorem Exact.readsBack {v : Json} (h : v.Exact) : v.ReadsBack := by
  induction h with
  | null => exact .of_succ (fun _ _ => ⟨'n', _, rfl, rfl, by decide⟩) fun _ _ _ _ _ _ => rfl
  | bool b =>
    cases b with
    | true => exact .of_succ (fun _ _ => ⟨'t', _, rfl, rfl, by decide⟩) fun _ _ _ _ _ _ => rfl
    | false => exact .of_succ (fun _ _ => ⟨'f', _, rfl, rfl, by decide⟩) fun _ _ _ _ _ _ => rfl
  | int n => exact readsBack_int n
  | str t => exact readsBack_str t
  | arr _ ih => exact readsBack_arr ih
  | obj _ ih => exact readsBack_obj ih

/-- The written form of an exact value denotes the value, also with blanks after it. -/
theorem Exact.read?_render {v : Json} (h : v.Exact) (indent : Option Nat) {blank : Text}
    (hblank : ∀ c ∈ blank, isSpace c = true) : read? (v.render indent ++ blank) = some v := by
  have hends : EndsNumber blank := by
    rw [← List.append_nil blank]
    exact EndsNumber.append (fun _ hc => nomatch hc) hblank
  have hread : readValue ((v.render indent ++ blank).length + 1) (v.render indent ++ blank) =
      some (v, blank) :=
    h.readsBack.readValue_write ⟨indent⟩ 0 _ blank
      (by rw [render, List.length_append]; omega) hends
  have hstart : skipSpace (v.render indent ++ blank) = v.render indent ++ blank :=
    h.readsBack.skipSpace_write ⟨indent⟩ 0 blank
  have hend : skipSpace blank = [] := by
    rw [← List.append_nil blank, skipSpace_append hblank]
    rfl
  rw [read?, hstart]
  simp only [bind, Option.bind_some, hread, hend]
  rfl

end MaskPolicy.Json
