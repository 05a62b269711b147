import Osfacts.Json

set_option autoImplicit false

/-! # JSON values and their text

A JSON value as a tree, and its text without blanks, as `serde_json::to_writer` prints it. The text
delimits itself: whatever may stand behind a value, one can tell where it ends and what it was
(`write_cut`). So a text that is one value is the text of one value only (`write_injective`).
-/

namespace Osfacts

/-- The characters of a number. -/
def Json.isNumberChar (c : Char) : Bool := c.isDigit || ['-', '+', '.', 'e', 'E'].contains c

/-- A number, as it is spelled. -/
structure JsonNumber where
  text : Text
  ne_nil : text ≠ []
  chars : ∀ c ∈ text, Json.isNumberChar c = true

inductive JsonTree where
  | null
  | number (literal : JsonNumber)
  | string (t : Text)
  | array (items : List JsonTree)
  | object (fields : List (String × JsonTree))

namespace JsonTree

mutual

def write : JsonTree → Text
  | null => ['n', 'u', 'l', 'l']
  | number literal => literal.text
  | string t => Json.stringify t
  | array items => '[' :: writeItems true items
  | object fields => '{' :: writeFields true fields

/-- The items that are left, and the bracket. A comma stands in front of all but the first. -/
def writeItems (first : Bool) : List JsonTree → Text
  | [] => [']']
  | item :: items => (if first then [] else [',']) ++ write item ++ writeItems false items

def writeFields (first : Bool) : List (String × JsonTree) → Text
  | [] => ['}']
  | (name, value) :: fields =>
      (if first then [] else [',']) ++ Json.stringify name.toList ++ ':' :: write value
        ++ writeFields false fields

end

/-! ## What a text starts with -/

/-- What may stand behind a value. -/
def Stops (rest : Text) : Prop := ∀ c ∈ rest.head?, c ∈ [',', ']', '}', '\n']

theorem stops_nil : Stops [] := by
  intro c hc
  cases hc

theorem stops_cons {c : Char} {rest : Text} (h : c ∈ [',', ']', '}', '\n']) :
    Stops (c :: rest) := by
  intro d hd
  rw [List.head?_cons, Option.mem_some_iff] at hd
  exact hd ▸ h

theorem stops_items (items : List JsonTree) (rest : Text) :
    Stops (writeItems false items ++ rest) := by
  cases items with
  | nil => exact stops_cons (by decide)
  | cons item items => exact stops_cons (by decide)

theorem stops_fields (fields : List (String × JsonTree)) (rest : Text) :
    Stops (writeFields false fields ++ rest) := by
  cases fields with
  | nil => exact stops_cons (by decide)
  | cons field fields => exact stops_cons (by decide)

/-- The kind of a value, by the first character of its text. -/
def kind (c : Char) : Nat :=
  if c = 'n' then 0 else if Json.isNumberChar c then 1 else if c = '"' then 2
  else if c = '[' then 3 else if c = '{' then 4 else 5

def kindOf : JsonTree → Nat
  | null => 0
  | number _ => 1
  | string _ => 2
  | array _ => 3
  | object _ => 4

theorem head_write (v : JsonTree) : ∃ c t, v.write = c :: t ∧ kind c = v.kindOf := by
  cases v with
  | null => exact ⟨_, _, rfl, by decide⟩
  | number literal =>
      obtain ⟨text, hne, hchars⟩ := literal
      cases text with
      | nil => exact absurd rfl hne
      | cons c t =>
          refine ⟨c, t, rfl, ?_⟩
          have hc : Json.isNumberChar c = true := hchars c List.mem_cons_self
          have hn : c ≠ 'n' := by
            rintro rfl
            exact absurd hc (by decide)
          show kind c = 1
          rw [kind, if_neg hn, if_pos hc]
  | string t => exact ⟨'"', _, rfl, rfl⟩
  | array items => exact ⟨'[', _, rfl, rfl⟩
  | object fields => exact ⟨'{', _, rfl, rfl⟩

/-- Two values with texts in the same place are of one kind. -/
theorem kindOf_eq {v w : JsonTree} {r s : Text} (h : v.write ++ r = w.write ++ s) :
    v.kindOf = w.kindOf := by
  obtain ⟨c, t, hv, hc⟩ := head_write v
  obtain ⟨d, u, hw, hd⟩ := head_write w
  rw [hv, hw, List.cons_append, List.cons_append, List.cons.injEq] at h
  rw [← hc, ← hd, h.1]

/-- No value starts like the end of a list. -/
theorem write_ne_close (v : JsonTree) {c : Char} (hc : kind c = 5) (r s : Text) :
    v.write ++ r ≠ c :: s := by
  intro h
  obtain ⟨d, t, hv, hd⟩ := head_write v
  rw [hv, List.cons_append, List.cons.injEq] at h
  rw [h.1, hc] at hd
  cases v <;> cases hd

/-! ## Where a text ends -/

theorem stringify_cut {t u r s : Text} (h : Json.stringify t ++ r = Json.stringify u ++ s) :
    t = u ∧ r = s := by
  have hbody : t.flatMap Json.escape ++ '"' :: r = u.flatMap Json.escape ++ '"' :: s := by
    simpa [Json.stringify] using h
  have hread := congrArg Json.readBody hbody
  rw [Json.readBody_flatMap_escape, Json.readBody_flatMap_escape, Option.some.injEq,
    Prod.mk.injEq] at hread
  exact hread

/-- What may stand behind a number is no part of it. -/
theorem takeWhile_number (literal : JsonNumber) {r : Text} (hr : Stops r) :
    (literal.text ++ r).takeWhile Json.isNumberChar = literal.text := by
  rw [List.takeWhile_append_of_pos literal.chars]
  have hnone : r.takeWhile Json.isNumberChar = [] := by
    cases r with
    | nil => rfl
    | cons c r =>
        have hc : c ∈ [',', ']', '}', '\n'] := hr c rfl
        rw [List.takeWhile_cons_of_neg]
        simp only [List.mem_cons, List.not_mem_nil, or_false] at hc
        rcases hc with rfl | rfl | rfl | rfl
        all_goals decide
  rw [hnone, List.append_nil]

theorem number_cut {a b : JsonNumber} {r s : Text} (hr : Stops r) (hs : Stops s)
    (h : a.text ++ r = b.text ++ s) : a = b ∧ r = s := by
  have htext : a.text = b.text := by
    rw [← takeWhile_number a hr, h, takeWhile_number b hs]
  cases a
  cases b
  simp only at htext h
  subst htext
  exact ⟨rfl, List.append_cancel_left h⟩

mutual

/-- **A value delimits itself.** By recursion over the first of the two: the second is of the same
kind, and the rests of two lists are what stands behind their first items. -/
theorem write_cut : ∀ (v w : JsonTree) {r s : Text}, Stops r → Stops s →
    v.write ++ r = w.write ++ s → v = w ∧ r = s
  | null, w, r, s, _, _, h => by
      have hkind := kindOf_eq h
      cases w with
      | null => exact ⟨rfl, List.append_cancel_left h⟩
      | _ => cases hkind
  | number a, w, r, s, hr, hs, h => by
      have hkind := kindOf_eq h
      cases w with
      | number b =>
          obtain ⟨rfl, hrest⟩ := number_cut hr hs h
          exact ⟨rfl, hrest⟩
      | _ => cases hkind
  | string t, w, r, s, _, _, h => by
      have hkind := kindOf_eq h
      cases w with
      | string u =>
          obtain ⟨rfl, hrest⟩ := stringify_cut h
          exact ⟨rfl, hrest⟩
      | _ => cases hkind
  | array items, w, r, s, _, _, h => by
      have hkind := kindOf_eq h
      cases w with
      | array items' =>
          obtain ⟨rfl, hrest⟩ := writeItems_cut true items items' (List.cons.inj h).2
          exact ⟨rfl, hrest⟩
      | _ => cases hkind
  | object fields, w, r, s, _, _, h => by
      have hkind := kindOf_eq h
      cases w with
      | object fields' =>
          obtain ⟨rfl, hrest⟩ := writeFields_cut true fields fields' (List.cons.inj h).2
          exact ⟨rfl, hrest⟩
      | _ => cases hkind

theorem writeItems_cut : ∀ (first : Bool) (items items' : List JsonTree) {r s : Text},
    writeItems first items ++ r = writeItems first items' ++ s → items = items' ∧ r = s
  | first, [], [], r, s, h => ⟨rfl, (List.cons.inj h).2⟩
  | first, [], item :: items', r, s, h => by
      cases first with
      | true =>
          have hclose : item.write ++ (writeItems false items' ++ s) = ']' :: r := by
            rw [← List.append_assoc]
            exact h.symm
          exact absurd hclose (write_ne_close item (by decide) _ _)
      | false => exact absurd (List.cons.inj h).1 (by decide)
  | first, item :: items, [], r, s, h => by
      cases first with
      | true =>
          have hclose : item.write ++ (writeItems false items ++ r) = ']' :: s := by
            rw [← List.append_assoc]
            exact h
          exact absurd hclose (write_ne_close item (by decide) _ _)
      | false => exact absurd (List.cons.inj h).1 (by decide)
  | first, item :: items, item' :: items', r, s, h => by
      have hitem : item.write ++ (writeItems false items ++ r)
          = item'.write ++ (writeItems false items' ++ s) := by
        rw [writeItems, writeItems, List.append_assoc, List.append_assoc, List.append_assoc,
          List.append_assoc] at h
        exact List.append_cancel_left h
      obtain ⟨rfl, hrest⟩ := write_cut item item' (stops_items items r) (stops_items items' s) hitem
      obtain ⟨rfl, hend⟩ := writeItems_cut false items items' hrest
      exact ⟨rfl, hend⟩

theorem writeFields_cut : ∀ (first : Bool) (fields fields' : List (String × JsonTree)) {r s : Text},
    writeFields first fields ++ r = writeFields first fields' ++ s → fields = fields' ∧ r = s
  | first, [], [], r, s, h => ⟨rfl, (List.cons.inj h).2⟩
  | first, [], (name, value) :: fields', r, s, h => by
      cases first with
      | true => exact absurd (List.cons.inj h).1 (by decide)
      | false => exact absurd (List.cons.inj h).1 (by decide)
  | first, (name, value) :: fields, [], r, s, h => by
      cases first with
      | true => exact absurd (List.cons.inj h).1 (by decide)
      | false => exact absurd (List.cons.inj h).1 (by decide)
  | first, (name, value) :: fields, (name', value') :: fields', r, s, h => by
      have hname : Json.stringify name.toList
            ++ ':' :: (value.write ++ (writeFields false fields ++ r))
          = Json.stringify name'.toList
            ++ ':' :: (value'.write ++ (writeFields false fields' ++ s)) := by
        simp only [writeFields, List.append_assoc, List.cons_append] at h
        exact List.append_cancel_left h
      obtain ⟨htext, hvalue⟩ := stringify_cut hname
      obtain rfl : name = name' := String.toList_inj.mp htext
      obtain ⟨rfl, hrest⟩ := write_cut value value' (stops_fields fields r)
        (stops_fields fields' s) (List.cons.inj hvalue).2
      obtain ⟨rfl, hend⟩ := writeFields_cut false fields fields' hrest
      exact ⟨rfl, hend⟩

end

theorem write_injective : Function.Injective write := by
  intro v w h
  have hcut : v.write ++ [] = w.write ++ [] := by rw [h]
  exact (write_cut v w stops_nil stops_nil hcut).1

end JsonTree

end Osfacts
