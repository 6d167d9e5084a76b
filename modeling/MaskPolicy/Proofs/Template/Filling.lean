import MaskPolicy.Template.Basic

/-!
# Templates filled in place

The templates of messages are running text and fields that name a value, or one inside a value, and
show it plainly or as a literal. Filling such a template leaves its text as it is and puts the
values in place of the fields. What a value looks like is not read again, so that it may hold
anything. Many templates have a single field, for a value, with text on both sides of it.
-/

namespace MaskPolicy.Template

/-- A letter or an underscore. -/
def isNameChar (c : Char) : Bool := c.isAlpha || c = '_'

/-- A name of a value, made of letters and underscores. -/
structure Name where
  text : Text
  ne_nil : text ≠ [] := by decide
  all_isNameChar : text.all isNameChar = true := by decide

/-- What a field refers to: a value, or an entry of a value. -/
inductive Reference where
  | value (name : Name)
  | entry (name key : Name)

/-- A part of a template: text without braces, or a field for a value, shown plainly or as a
literal.
-/
inductive Part where
  | text (t : Text) (noBraces : t.all (fun c => c ≠ '{' && c ≠ '}') = true := by decide)
  | plain (r : Reference)
  | literal (r : Reference)

namespace Reference

/-- The path that is written for a reference. -/
def path : Reference → Text
  | value name => name.text
  | entry name key => name.text ++ '[' :: key.text ++ [']']

/-- The value that a reference refers to. -/
def value? (values : List (Text × Json)) : Reference → Option Json
  | value name => Json.member? name.text values
  | entry name key =>
    match Json.member? name.text values with
    | some (.obj members) => Json.member? key.text members
    | _ => none

end Reference

namespace Part

/-- A part as it is written in a template. -/
def written : Part → Text
  | text t _ => t
  | plain r => '{' :: r.path ++ ['}']
  | literal r => '{' :: r.path ++ ['!', 'r', '}']

/-- What is shown for a part, if its value is there and can be written. -/
def shown? (values : List (Text × Json)) : Part → Option Text
  | text t _ => some t
  | plain r => ((r.value? values).filter Json.writable).map Json.plain
  | literal r => ((r.value? values).filter Json.writable).map Json.literal

end Part

/-- The template with some parts. -/
def write (parts : List Part) : Text := parts.flatMap Part.written

/-- What a template with some parts shows, if all its values are there and can be written. -/
def show? (values : List (Text × Json)) : List Part → Option Text
  | [] => some []
  | p :: rest =>
    match p.shown? values, show? values rest with
    | some t, some message => some (t ++ message)
    | _, _ => none

private theorem ne_of_isNameChar {c d : Char} (hc : isNameChar c = true)
    (hd : isNameChar d = false) : c ≠ d := by
  rintro rfl
  rw [hc] at hd
  cases hd

private theorem digitValue?_of_isNameChar {c : Char} (h : isNameChar c = true) :
    Text.digitValue? c = none := by
  have hlt : c.toNat < 123 := by
    rcases Bool.or_eq_true_iff.mp h with halpha | hunderscore
    · rcases Bool.or_eq_true_iff.mp halpha with hupper | hlower
      · have hle : c.toNat ≤ 'Z'.toNat := (of_decide_eq_true hupper).2
        exact Nat.lt_of_le_of_lt hle (by decide)
      · have hle : c.toNat ≤ 'z'.toNat := of_decide_eq_true (Bool.and_eq_true_iff.mp hlower).2
        exact Nat.lt_succ_of_le hle
    · rw [of_decide_eq_true hunderscore]
      decide
  exact Text.of_toNat_lt (fun c => isNameChar c = true → Text.digitValue? c = none)
    (by decide +kernel) hlt h

namespace Name

variable (n : Name)

private theorem isNameChar_of_mem {c : Char} (h : c ∈ n.text) : isNameChar c = true :=
  List.all_eq_true.mp n.all_isNameChar c h

private theorem position_eq : position n.text = .ok none := by
  obtain ⟨t, hne, hchars⟩ := n
  cases t with
  | nil => exact absurd rfl hne
  | cons c t =>
    have hc := digitValue?_of_isNameChar (List.all_eq_true.mp hchars c List.mem_cons_self)
    simp only [position, List.isEmpty_cons, Bool.false_eq_true, if_false, readPosition, hc]

/-- A name is read to its end as a part of a path. -/
theorem readPath_append (inBrackets : Bool) (rest : Text) :
    readPath inBrackets (n.text ++ rest) =
      (readPath inBrackets rest).map fun (p, e, r) => (n.text ++ p, e, r) := by
  suffices h : ∀ t : Text, (∀ c ∈ t, isNameChar c = true) →
      readPath inBrackets (t ++ rest) =
        (readPath inBrackets rest).map fun (p, e, r) => (t ++ p, e, r) from
    h n.text fun _ => n.isNameChar_of_mem
  intro t ht
  induction t with
  | nil =>
    rw [List.nil_append]
    cases readPath inBrackets rest <;> rfl
  | cons c t ih =>
    obtain ⟨hc, hrest⟩ := List.forall_mem_cons.mp ht
    have hsame : readPath inBrackets (c :: (t ++ rest)) =
        (readPath inBrackets (t ++ rest)).map fun (p, e, r) => (c :: p, e, r) := by
      have hends : c ≠ '}' ∧ c ≠ ':' ∧ c ≠ '!' := ⟨ne_of_isNameChar hc (by decide),
        ne_of_isNameChar hc (by decide), ne_of_isNameChar hc (by decide)⟩
      have hopen : c ≠ '{' := ne_of_isNameChar hc (by decide)
      have hbrackets : c ≠ '[' ∧ c ≠ ']' :=
        ⟨ne_of_isNameChar hc (by decide), ne_of_isNameChar hc (by decide)⟩
      cases inBrackets <;> simp [readPath, hends, hopen, hbrackets]
    rw [List.cons_append, hsame, ih hrest]
    cases readPath inBrackets rest <;> rfl

private theorem takeWhile_append {p : Char → Bool} (hp : ∀ c, isNameChar c = true → p c = true)
    {rest : Text} (hrest : rest.takeWhile p = []) :
    (n.text ++ rest).takeWhile p = n.text ∧ (n.text ++ rest).dropWhile p = rest := by
  have hname : ∀ c ∈ n.text, p c = true := fun c hc => hp c (n.isNameChar_of_mem hc)
  have hdrop : rest.dropWhile p = rest := by
    have hsplit := List.takeWhile_append_dropWhile (p := p) (l := rest)
    rwa [hrest] at hsplit
  rw [List.takeWhile_append_of_pos hname, List.dropWhile_append_of_pos hname, hrest, hdrop,
    List.append_nil]
  exact ⟨rfl, rfl⟩

end Name

namespace Reference

/-- A path is read up to the character that ends it. -/
theorem readPath_path (r : Reference) {stop : Char} (hstop : stop = '}' ∨ stop = '!')
    (rest : Text) : readPath false (r.path ++ stop :: rest) = .ok (r.path, stop, rest) := by
  have hend : readPath false (stop :: rest) = .ok ([], stop, rest) := by
    rcases hstop with rfl | rfl <;> rfl
  cases r with
  | value name =>
    rw [path, name.readPath_append, hend]
    simp [Except.map]
  | entry name key =>
    have hclose : readPath true (']' :: stop :: rest) = .ok ([']'], stop, rest) := by
      rw [readPath]
      simp [hend, Except.map]
    have hopen : readPath false ('[' :: (key.text ++ ']' :: stop :: rest)) =
        .ok ('[' :: (key.text ++ [']']), stop, rest) := by
      rw [readPath]
      simp [key.readPath_append, hclose, Except.map]
    have happend : path (entry name key) ++ stop :: rest =
        name.text ++ '[' :: (key.text ++ ']' :: stop :: rest) := by
      simp [path]
    rw [happend, name.readPath_append, hopen]
    simp [Except.map, path]

/-- Under a path that starts with a name, the value of the name is followed, if it is there. -/
theorem lookup_append (attributes : Attributes) (values : List (Text × Json)) (name : Name)
    (rest : Text)
    (hrest : rest.takeWhile (fun c => c ≠ '.' && c ≠ '[') = []) :
    lookup attributes values (name.text ++ rest) =
      match Json.member? name.text values with
      | none => .error (.missingKey (.str name.text))
      | some v => follow attributes (rest.length + 1) v rest := by
  have hchars : ∀ c, isNameChar c = true → (decide (c ≠ '.') && decide (c ≠ '[')) = true := by
    intro c hc
    rw [Bool.and_eq_true, decide_eq_true_iff, decide_eq_true_iff]
    exact ⟨ne_of_isNameChar hc (by decide), ne_of_isNameChar hc (by decide)⟩
  have hsplit := name.takeWhile_append hchars hrest
  have hne : name.text.isEmpty = false := List.isEmpty_eq_false_iff.mpr name.ne_nil
  cases hvalue : Json.member? name.text values <;>
    simp only [lookup, hsplit, hne, name.position_eq, hvalue, Bool.false_eq_true, if_false]

/-- A name without a value is reported. -/
theorem lookup_missing {values : List (Text × Json)} {name : Name}
    (h : Json.member? name.text values = none) :
    lookup attributes values (value name).path = .error (.missingKey (.str name.text)) := by
  have hlookup := lookup_append attributes values name [] rfl
  rwa [List.append_nil, h] at hlookup

/-- A key between brackets leads to the member under the key. -/
theorem follow_key {members : List (Text × Json)} {key : Name} {v : Json}
    (h : Json.member? key.text members = some v) (fuel : Nat) :
    follow attributes (fuel + 1) (.obj members) ('[' :: (key.text ++ [']'])) =
      .ok (.value v) := by
  have hchars : ∀ c, isNameChar c = true → decide (c ≠ ']') = true :=
    fun c hc => decide_eq_true (ne_of_isNameChar hc (by decide))
  have hsplit : (key.text ++ [']']).takeWhile (· ≠ ']') = key.text ∧
      (key.text ++ [']']).dropWhile (· ≠ ']') = [']'] := key.takeWhile_append hchars rfl
  have hne : key.text.isEmpty = false := List.isEmpty_eq_false_iff.mpr key.ne_nil
  have hselect : select (.obj members) key.text = .ok v := by
    simp only [select, key.position_eq, h]
  rw [follow]
  · simp only [if_true, hsplit, hne, Bool.false_eq_true, if_false, hselect]
    cases fuel <;> rfl

/-- A value that is there is found at its path. -/
theorem lookup_path {values : List (Text × Json)} {r : Reference} {v : Json}
    (h : r.value? values = some v) : lookup attributes values r.path = .ok (.value v) := by
  cases r with
  | value name =>
    have hlookup := lookup_append attributes values name [] rfl
    have hv : Json.member? name.text values = some v := h
    rwa [List.append_nil, hv] at hlookup
  | entry name key =>
    rw [value?] at h
    split at h
    · next members hmembers =>
      have hpath : path (entry name key) = name.text ++ '[' :: (key.text ++ [']']) := by
        simp [path]
      rw [hpath, lookup_append attributes values name _ rfl, hmembers]
      exact follow_key h _
    · cases h

private theorem exists_path_eq_cons (r : Reference) :
    ∃ c t, r.path = c :: t ∧ isNameChar c = true := by
  have hname : ∀ (name : Name) (rest : Text),
      ∃ c t, name.text ++ rest = c :: t ∧ isNameChar c = true := by
    rintro ⟨t, hne, hchars⟩ rest
    cases t with
    | nil => exact absurd rfl hne
    | cons c t => exact ⟨c, t ++ rest, rfl, List.all_eq_true.mp hchars c List.mem_cons_self⟩
  cases r with
  | value name =>
    obtain ⟨c, t, h⟩ := hname name []
    rw [List.append_nil] at h
    exact ⟨c, t, h⟩
  | entry name key =>
    obtain ⟨c, t, h⟩ := hname name ('[' :: (key.text ++ [']']))
    exact ⟨c, t, by simpa [path] using h⟩

end Reference

variable {attributes : Attributes} {values : List (Text × Json)}

/-- Text without braces is left as it is. -/
theorem fill_pieces_text {t : Text} (h : t.all (fun c => c ≠ '{' && c ≠ '}') = true) (fuel : Nat)
    (rest : Text) : fill attributes 1 values (pieces (fuel + 1) (t ++ rest)) =
      (fill attributes 1 values (pieces (fuel + 1) rest)).map (t ++ ·) := by
  have hp := List.all_eq_true.mp h
  have hliteral : ∀ (plain : Text) (ps : List Piece),
      fill attributes 1 values (.literal (t ++ plain) :: ps) =
        (fill attributes 1 values (.literal plain :: ps)).map (t ++ ·) := by
    intro plain ps
    rw [fill, fill]
    cases fill attributes 1 values ps <;> simp [Except.map]
  have hmalformed : ∀ reason, fill attributes 1 values [.malformed reason] =
      (fill attributes 1 values [.malformed reason]).map (t ++ ·) := by
    intro reason
    rw [fill]
    rfl
  rw [pieces, pieces, List.takeWhile_append_of_pos hp, List.dropWhile_append_of_pos hp]
  -- The text comes before the first brace, if there is one, and changes nothing about the rest.
  split
  · exact hliteral _ _
  · exact hmalformed _
  · split
    · rw [List.append_assoc]
      exact hliteral _ _
    · split
      · exact hmalformed _
      · split
        · exact hliteral _ _
        · exact hliteral _ _

private theorem pieces_field {body rest : Text} {f : Field} {c : Char} {t : Text}
    (hbody : body = c :: t) (hc : isNameChar c = true) (hread : readField body = .ok (f, rest))
    (fuel : Nat) :
    pieces (fuel + 1) ('{' :: body) = .literal [] :: .field f :: pieces fuel rest := by
  have hne : '{' ≠ c := (ne_of_isNameChar hc (by decide)).symm
  rw [hbody] at hread ⊢
  rw [pieces]
  simp [hne, hread]

/-- The piece of a part that is shown plainly. -/
theorem pieces_plain (r : Reference) (fuel : Nat) (rest : Text) :
    pieces (fuel + 1) ((Part.plain r).written ++ rest) =
      .literal [] :: .field ⟨r.path, none, []⟩ :: pieces fuel rest := by
  obtain ⟨c, t, hpath, hc⟩ := r.exists_path_eq_cons
  have hread : readField (r.path ++ '}' :: rest) = .ok (⟨r.path, none, []⟩, rest) := by
    rw [readField, r.readPath_path (.inl rfl)]
    rfl
  have hwritten : (Part.plain r).written ++ rest = '{' :: (r.path ++ '}' :: rest) := by
    simp [Part.written]
  rw [hwritten, pieces_field (by rw [hpath]; rfl) hc hread]

/-- The piece of a part that is shown as a literal. -/
theorem pieces_literal (r : Reference) (fuel : Nat) (rest : Text) :
    pieces (fuel + 1) ((Part.literal r).written ++ rest) =
      .literal [] :: .field ⟨r.path, some 'r', []⟩ :: pieces fuel rest := by
  obtain ⟨c, t, hpath, hc⟩ := r.exists_path_eq_cons
  have hread : readField (r.path ++ '!' :: 'r' :: '}' :: rest) =
      .ok (⟨r.path, some 'r', []⟩, rest) := by
    rw [readField, r.readPath_path (.inr rfl)]
    rfl
  have hwritten : (Part.literal r).written ++ rest =
      '{' :: (r.path ++ '!' :: 'r' :: '}' :: rest) := by
    simp [Part.written]
  rw [hwritten, pieces_field (by rw [hpath]; rfl) hc hread]

/-- A field is filled with what is shown for its value, if that can be written. -/
theorem fill_field {f : Field} (hlayout : f.layout = []) {v w : Json}
    (hlookup : lookup attributes values f.path = .ok (.value v))
    (hconvert : convert (.value v) f.conversion = .ok (.value w)) (ps : List Piece) :
    fill attributes 1 values (.literal [] :: .field f :: ps) =
      if w.writable then (fill attributes 1 values ps).map (w.plain ++ ·)
      else .error .tooManyDigits := by
  have hexpand : fill.expand attributes values 1 f.layout = .ok [] := by
    rw [hlayout, fill.expand.eq_def]
    rfl
  have hpresent : present (.value w) [] = written w w.plain := rfl
  rw [fill, fill, hlookup]
  simp only [hconvert, hexpand, hpresent, written]
  by_cases hw : w.writable = true
  · simp only [if_pos hw]
    cases fill attributes 1 values ps <;> rfl
  · simp only [if_neg hw]
    rfl

/-- A part is filled with what is shown for it. -/
theorem fill_pieces_part {p : Part} {shown : Text} (h : p.shown? values = some shown) {fuel : Nat}
    {rest : Text} {result : Except TemplateError Text} (hfuel : (p.written ++ rest).length < fuel)
    (hrest : ∀ fuel, rest.length < fuel → fill attributes 1 values (pieces fuel rest) = result) :
    fill attributes 1 values (pieces fuel (p.written ++ rest)) = result.map (shown ++ ·) := by
  obtain ⟨fuel, rfl⟩ := Nat.exists_eq_succ_of_ne_zero (Nat.ne_zero_of_lt hfuel)
  rw [List.length_append] at hfuel
  cases p with
  | text t hbraces =>
    obtain rfl := Option.some.inj h
    have hlater := hrest (fuel + 1) (by omega)
    rw [Part.written, fill_pieces_text hbraces, hlater]
  | plain r =>
    obtain ⟨v, hshown, rfl⟩ := Option.map_eq_some_iff.mp h
    obtain ⟨hv, hw⟩ := Option.filter_eq_some_iff.mp hshown
    have hlater := hrest fuel (by simp [Part.written] at hfuel; omega)
    rw [pieces_plain, fill_field rfl (Reference.lookup_path hv) rfl, if_pos hw, hlater]
  | literal r =>
    obtain ⟨v, hshown, rfl⟩ := Option.map_eq_some_iff.mp h
    obtain ⟨hv, hw⟩ := Option.filter_eq_some_iff.mp hshown
    have hlater := hrest fuel (by simp [Part.written] at hfuel; omega)
    have hconvert : convert (.value v) (some 'r') = .ok (.value (.str v.literal)) := by
      simp only [convert, Target.literal, written, if_pos hw]
      rfl
    rw [pieces_literal, fill_field rfl (Reference.lookup_path hv) hconvert,
      if_pos (Json.writable_str _), hlater]
    rfl

/-- Parts whose values are there are filled, whatever comes after them. -/
theorem fill_pieces_write {parts : List Part} {shown : Text} (h : show? values parts = some shown)
    {rest : Text} {result : Except TemplateError Text}
    (hrest : ∀ fuel, rest.length < fuel → fill attributes 1 values (pieces fuel rest) = result)
    (fuel : Nat) (hfuel : (write parts ++ rest).length < fuel) :
    fill attributes 1 values (pieces fuel (write parts ++ rest)) = result.map (shown ++ ·) := by
  induction parts generalizing shown fuel with
  | nil =>
    obtain rfl := Option.some.inj h
    rw [show write [] ++ rest = rest from rfl, hrest fuel hfuel]
    cases result <;> rfl
  | cons p parts ih =>
    rw [show?] at h
    split at h
    · next first later hfirst hlater =>
      obtain rfl := Option.some.inj h
      have hwrite : write (p :: parts) ++ rest = p.written ++ (write parts ++ rest) := by
        simp [write]
      rw [hwrite] at hfuel ⊢
      rw [fill_pieces_part hfirst hfuel (ih hlater)]
      cases result <;> simp [Except.map]
    · cases h

/-- A part and the rest of a template are shown one after the other. -/
theorem show?_cons {p : Part} {parts : List Part} {shown message : Text}
    (hp : p.shown? values = some shown) (hparts : show? values parts = some message) :
    show? values (p :: parts) = some (shown ++ message) := by
  rw [show?, hp, hparts]

/-- A template whose values are there is filled, with the values in place of the fields. -/
theorem format_write {parts : List Part} {message : Text} (h : show? values parts = some message) :
    format (write parts) values attributes = .ok message := by
  have hend : ∀ fuel, ([] : Text).length < fuel →
      fill attributes 1 values (pieces fuel []) = .ok [] := by
    intro fuel hfuel
    obtain ⟨fuel, rfl⟩ := Nat.exists_eq_succ_of_ne_zero (Nat.ne_zero_of_lt hfuel)
    show fill attributes 1 values [.literal []] = _
    rw [fill, fill]
    rfl
  have hfill := fill_pieces_write h hend _ (Nat.lt_succ_self _)
  rw [List.append_nil] at hfill
  rw [format, ofText, hfill]
  exact congrArg Except.ok (List.append_nil message)

/-- The first part that cannot be filled is reported, whatever comes after it. -/
theorem format_write_error {before : List Part} {shown : Text}
    (hbefore : show? values before = some shown) {p : Part} {e : TemplateError} {after : List Part}
    (hp : ∀ fuel,
      fill attributes 1 values (pieces (fuel + 1) (p.written ++ write after)) = .error e) :
    format (write (before ++ p :: after)) values attributes = .error e := by
  have hstop : ∀ fuel, (write (p :: after)).length < fuel →
      fill attributes 1 values (pieces fuel (write (p :: after))) = .error e := by
    intro fuel hfuel
    obtain ⟨fuel, rfl⟩ := Nat.exists_eq_succ_of_ne_zero (Nat.ne_zero_of_lt hfuel)
    exact hp fuel
  have hwrite : write (before ++ p :: after) = write before ++ write (p :: after) :=
    List.flatMap_append
  rw [format, ofText, hwrite, fill_pieces_write hbefore hstop _ (Nat.lt_succ_self _)]
  rfl

/-- A field without a value is reported. -/
theorem format_write_missing {before : List Part} {shown : Text}
    (hbefore : show? values before = some shown) {name : Name}
    (hname : Json.member? name.text values = none) (after : List Part) :
    format (write (before ++ .plain (.value name) :: after)) values attributes =
      .error (.missingKey (.str name.text)) := by
  refine format_write_error hbefore fun fuel => ?_
  rw [pieces_plain, fill, fill, Reference.lookup_missing hname]
  rfl

/-- A field for a value that cannot be written is reported, whether it is to be shown plainly or as
a literal. -/
theorem format_write_unwritable {before : List Part} {shown : Text}
    (hbefore : show? values before = some shown) {r : Reference} {v : Json}
    (hv : r.value? values = some v) (hw : v.writable = false) {p : Part}
    (hp : p = .plain r ∨ p = .literal r) (after : List Part) :
    format (write (before ++ p :: after)) values attributes = .error .tooManyDigits := by
  refine format_write_error hbefore fun fuel => ?_
  rcases hp with rfl | rfl
  · rw [pieces_plain, fill_field rfl (Reference.lookup_path hv) rfl, hw]
    rfl
  · have hconvert : convert (.value v) (some 'r') = .error .tooManyDigits := by
      simp [convert, Target.literal, written, hw, Except.map]
    rw [pieces_literal, fill, fill, Reference.lookup_path hv]
    simp only [hconvert]
    rfl

/-- A template with one field, for a value that has a name. -/
def single (before : Text) (name : Name) (after : Text)
    (hbefore : before.all (fun c => c ≠ '{' && c ≠ '}') = true := by decide)
    (hafter : after.all (fun c => c ≠ '{' && c ≠ '}') = true := by decide) : List Part :=
  [.text before hbefore, .plain (.value name), .text after hafter]

/-- The message is a template with one field and a value in place of the field. -/
def FilledInPlace (parts : List Part) (name : Name) (v : Json) (message : Text) : Prop :=
  ∃ before after hbefore hafter, parts = single before name after hbefore hafter ∧
    message = before ++ v.plain ++ after

/-- A template with one field is filled by the value with the name, if that can be written. -/
theorem FilledInPlace.format_eq {parts : List Part} {name : Name} {v : Json} {message : Text}
    (h : FilledInPlace parts name v message) (hv : v.writable = true) :
    format (write parts) [(name.text, v)] attributes = .ok message := by
  obtain ⟨before, after, hbefore, hafter, rfl, rfl⟩ := h
  have hmember : Json.member? name.text [(name.text, v)] = some v := by simp [Json.member?]
  apply format_write
  simp [show?, single, Part.shown?, Reference.value?, hmember, Option.filter, hv]

end MaskPolicy.Template
