import SourceCensus.Proofs.Json.Members
import SourceCensus.Proofs.Json.Scalars

/-! # Reading back what was written

    A value is `Plain` when no double is in it and its objects have every key once. The text that
    is written for a plain value is read as that value (`read_writeValue`), whatever the
    indentation is.

    The statement that an induction over values carries is about any level and about any text
    behind the value that ends it (`ReadsBack`).

    No carriage return is written (`return_not_mem_writeValue`), so that it does not matter to what
    is written how line endings are treated.
-/

namespace SourceCensus.Json

open Text Number

variable {t r : List Char} {v : Value} {vs : List Value} {ms : Members} {k : String}
  {indent level : Nat}

/-! ## Values -/

/-- Values in which no double stands and in which every object has every key once. -/
inductive Plain : Value → Prop
  | null : Plain .null
  | bool (b : Bool) : Plain (.bool b)
  | int (n : Int) : Plain (.int n)
  | string (s : String) : Plain (.string s)
  | array {items : List Value} (hitems : ∀ v ∈ items, Plain v) : Plain (.array items)
  | object {ms : Members} (hkeys : (Members.keys ms).Nodup) (hvalues : ∀ m ∈ ms, Plain m.2) :
      Plain (.object ms)

/-- A value that is read back from what is written for it, on any level and before any text that
    ends a value. -/
def ReadsBack (indent : Nat) (v : Value) : Prop :=
  ∀ level r, Delimited r → Reads readValue (writeValue indent level v ++ r) v r

/-- What is written for a value does not begin with a blank, with the end of an array or with a
    byte order mark. -/
theorem Plain.writeValue_eq_cons (h : Plain v) (indent level : Nat) :
    ∃ c t, writeValue indent level v = c :: t ∧ isJsonBlank c = false ∧ c ≠ ']' ∧
      c ≠ '\ufeff' := by
  cases h with
  | null => exact ⟨'n', _, rfl, by decide, by decide, by decide⟩
  | bool b =>
    cases b with
    | true => exact ⟨'t', _, rfl, by decide, by decide, by decide⟩
    | false => exact ⟨'f', _, rfl, by decide, by decide, by decide⟩
  | int n =>
    rw [writeValue, integerText, String.toList_ofList]
    by_cases hneg : n < 0
    · rw [if_pos hneg]
      exact ⟨'-', _, rfl, by decide, by decide, by decide⟩
    · rw [if_neg hneg]
      -- the first digit of a number is none of these
      obtain ⟨c, ds, hds, hc⟩ := exists_toDigits_eq_cons n.natAbs
      exact ⟨c, ds, hds, not_jsonBlank_of_digit hc, (ne_of_isAsciiDigit hc rfl).symm,
        (ne_of_isAsciiDigit hc rfl).symm⟩
  | string s => exact ⟨'\x22', _, rfl, by decide, by decide, by decide⟩
  | array hitems =>
    rename_i items
    cases items with
    | nil => exact ⟨'[', _, rfl, by decide, by decide, by decide⟩
    | cons v vs => exact ⟨'[', _, by rw [writeValue], by decide, by decide, by decide⟩
  | object hkeys hvalues =>
    rename_i ms
    cases ms with
    | nil => exact ⟨'\x7b', _, rfl, by decide, by decide, by decide⟩
    | cons m ms => exact ⟨'\x7b', _, by rw [writeValue], by decide, by decide, by decide⟩

/-- The blanks before a value are passed over. -/
theorem Plain.skipBlanks_newLine_append (h : Plain v) (indent level : Nat) (t : List Char) :
    skipBlanks (newLine indent level ++ (writeValue indent level v ++ t)) =
      writeValue indent level v ++ t := by
  obtain ⟨c, s, hwritten, hc, -⟩ := h.writeValue_eq_cons indent level
  rw [skipBlanks_newLine, hwritten, List.cons_append, skipBlanks_cons hc]

theorem Plain.skipBlanks_space_append (h : Plain v) (indent level : Nat) (t : List Char) :
    skipBlanks (' ' :: (writeValue indent level v ++ t)) = writeValue indent level v ++ t := by
  obtain ⟨c, s, hwritten, hc, -⟩ := h.writeValue_eq_cons indent level
  have hspace : skipBlanks (' ' :: (c :: (s ++ t))) = skipBlanks (c :: (s ++ t)) := rfl
  rw [hwritten, List.cons_append, hspace, skipBlanks_cons hc]

/-- The items of an array are read back, up to its end on any level. -/
theorem readsItems_written {level' : Nat} (h : ∀ w ∈ v :: vs, Plain w ∧ ReadsBack indent w)
    (r : List Char) :
    Reads readItems (writeValue indent level v ++ (writeItems indent level vs ++
      (newLine indent level' ++ ']' :: r))) (v :: vs) r := by
  induction vs generalizing v with
  | nil =>
    obtain ⟨⟨-, hback⟩, -⟩ := List.forall_mem_cons.1 h
    rw [writeItems, List.nil_append]
    refine readsItems_last (hback level _ (delimited_newLine indent level' _)) ?_
    rw [skipBlanks_newLine, skipBlanks_cons (by decide)]
  | cons w vs ih =>
    obtain ⟨⟨-, hback⟩, hvs⟩ := List.forall_mem_cons.1 h
    obtain ⟨⟨hw, -⟩, -⟩ := List.forall_mem_cons.1 hvs
    have hrest := ih hvs
    rw [writeItems, List.cons_append, List.append_assoc, List.append_assoc]
    refine readsItems_cons (hback level _ (delimited_comma _)) (skipBlanks_cons (by decide) _) ?_
    rwa [hw.skipBlanks_newLine_append]

/-- The members of an object are read back, up to its end on any level. -/
theorem readsMembers_written {level' : Nat}
    (h : ∀ m ∈ (k, v) :: ms, Plain m.2 ∧ ReadsBack indent m.2) (r : List Char) :
    Reads readMembers (writeString k ++ (':' :: ' ' :: (writeValue indent level v ++
      (writeMembers indent level ms ++ (newLine indent level' ++ '\x7d' :: r))))) ((k, v) :: ms)
      r := by
  induction ms generalizing k v with
  | nil =>
    -- the value ends at the line break before the closing brace
    obtain ⟨⟨hv, hback⟩, -⟩ := List.forall_mem_cons.1 h
    have hvalue := hback level _ (delimited_newLine indent level' ('\x7d' :: r))
    rw [← hv.skipBlanks_space_append] at hvalue
    obtain ⟨t, hkey, hread⟩ := readsChars_writeString k
      (':' :: ' ' :: (writeValue indent level v ++ (newLine indent level' ++ '\x7d' :: r)))
    have hend : skipBlanks (newLine indent level' ++ '\x7d' :: r) = '\x7d' :: r := by
      rw [skipBlanks_newLine, skipBlanks_cons (by decide)]
    have hlast := readsMembers_last hread (skipBlanks_cons (by decide) _) hvalue hend
    rw [String.ofList_toList] at hlast
    rwa [writeMembers, List.nil_append, hkey]
  | cons m ms ih =>
    -- the value ends at the comma before the next member
    obtain ⟨⟨hv, hback⟩, hms⟩ := List.forall_mem_cons.1 h
    obtain ⟨k', w⟩ := m
    have hrest := ih hms
    have hvalue := hback level _ (delimited_comma (newLine indent level ++ (writeString k' ++
      (':' :: ' ' :: (writeValue indent level w ++ (writeMembers indent level ms ++
        (newLine indent level' ++ '\x7d' :: r)))))))
    rw [← hv.skipBlanks_space_append] at hvalue
    obtain ⟨t, hkey, hread⟩ := readsChars_writeString k
      (':' :: ' ' :: (writeValue indent level v ++ (',' :: (newLine indent level ++
        (writeString k' ++ (':' :: ' ' :: (writeValue indent level w ++
          (writeMembers indent level ms ++ (newLine indent level' ++ '\x7d' :: r)))))))))
    have hcons := readsMembers_cons hread (skipBlanks_cons (by decide) _) hvalue
      (skipBlanks_cons (by decide) _)
      (by rwa [skipBlanks_newLine, skipBlanks_writeString])
    rw [String.ofList_toList] at hcons
    rw [writeMembers]
    simp only [List.cons_append, List.append_assoc, List.nil_append]
    rwa [hkey]

theorem readsBack_array (h : ∀ w ∈ vs, Plain w ∧ ReadsBack indent w) :
    ReadsBack indent (.array vs) := by
  intro level r hr
  cases vs with
  | nil => exact readsValue_emptyArray (skipBlanks_cons (by decide) r)
  | cons v vs =>
    have hv := (h v (by simp)).1
    rw [writeValue]
    simp only [List.cons_append, List.append_assoc, List.nil_append]
    apply readsValue_array (hv.skipBlanks_newLine_append indent (level + 1) _)
    · intro d hd
      obtain ⟨c, t, hwritten, -, hclose, -⟩ := hv.writeValue_eq_cons indent (level + 1)
      rw [hwritten, List.cons_append, List.head?_cons, Option.mem_some_iff] at hd
      exact hd ▸ hclose
    · exact readsItems_written h r

theorem readsBack_object (hkeys : (Members.keys ms).Nodup)
    (h : ∀ m ∈ ms, Plain m.2 ∧ ReadsBack indent m.2) : ReadsBack indent (.object ms) := by
  intro level r hr
  cases ms with
  | nil => exact readsValue_emptyObject (skipBlanks_cons (by decide) r)
  | cons m ms =>
    obtain ⟨k, v⟩ := m
    rw [writeValue]
    simp only [List.cons_append, List.append_assoc, List.nil_append]
    rw [← Members.ofList_of_nodup hkeys]
    apply readsValue_object
    · rw [skipBlanks_newLine, skipBlanks_writeString]
    · intro d hd
      rw [writeString, List.cons_append, List.head?_cons, Option.mem_some_iff] at hd
      rw [← hd]
      decide
    · exact readsMembers_written h r

/-- **A plain value is read back** on any level, before any text that ends a value. -/
theorem readsBack_of_plain (h : Plain v) (indent : Nat) : ReadsBack indent v := by
  induction h with
  | null => exact fun level r hr => readsValue_null r
  | bool b =>
    intro level r hr
    cases b with
    | true => exact readsValue_true r
    | false => exact readsValue_false r
  | int n =>
    intro level r hr
    rw [writeValue]
    exact readsValue_integerText n hr
  | string s =>
    intro level r hr
    obtain ⟨t, hwritten, hread⟩ := readsChars_writeString s r
    have hvalue := readsValue_string hread
    rw [String.ofList_toList] at hvalue
    rwa [writeValue, hwritten]
  | array hitems ih => exact readsBack_array fun w hw => ⟨hitems w hw, ih w hw⟩
  | object hkeys hvalues ih => exact readsBack_object hkeys fun m hm => ⟨hvalues m hm, ih m hm⟩

/-- **What is written for a plain value is read as that value.** -/
theorem read_writeValue (h : Plain v) (indent : Nat) : read (writeValue indent 0 v) = .ok v := by
  obtain ⟨c, t, hwritten, hc, -, hmark⟩ := h.writeValue_eq_cons indent 0
  have hread := readsBack_of_plain h indent 0 [] delimited_nil
  rw [List.append_nil, hwritten] at hread
  have hnil : skipBlanks [] = [] := rfl
  rw [← skipBlanks_cons hc] at hread
  rw [hwritten]
  exact read_of_reads (by simpa using hmark) hread hnil

/-! ## Line endings -/

theorem return_not_mem_writtenChar (c : Char) : '\r' ∉ writtenChar c := by
  have hdigits : ∀ n < 0x20, '\r' ∉ '\\' :: 'u' :: hexDigits 4 n := by decide
  obtain ⟨e, hwritten, -, he⟩ | ⟨hcontrol, hwritten⟩ | ⟨⟨-, hcontrol, -⟩, hwritten⟩ :=
    writtenChar_cases c
  · have hreturn : e ≠ '\r' := by
      rintro rfl
      cases he
    rw [hwritten]
    simpa using hreturn.symm
  · rw [hwritten]
    exact hdigits c.toNat hcontrol
  · have hreturn : c ≠ '\r' := by
      rintro rfl
      exact hcontrol (by decide)
    rw [hwritten]
    simpa using hreturn.symm

theorem return_not_mem_writeString (s : String) : '\r' ∉ writeString s := by
  unfold writeString
  simp [return_not_mem_writtenChar]

theorem return_not_mem_newLine (indent level : Nat) : '\r' ∉ newLine indent level := by
  unfold newLine
  simp [List.mem_replicate]

theorem return_not_mem_integerText (n : Int) : '\r' ∉ (integerText n).toList := by
  have hdigits : '\r' ∉ Nat.toDigits 10 n.natAbs := by
    intro hmem
    have hdigit : isAsciiDigit '\r' = true := isAsciiDigit_of_mem_toDigits hmem
    cases hdigit
  unfold integerText
  rw [String.toList_ofList]
  split
  · simpa using hdigits
  · exact hdigits

theorem return_not_mem_writeItems
    (h : ∀ w ∈ vs, ∀ level, '\r' ∉ writeValue indent level w) (level : Nat) :
    '\r' ∉ writeItems indent level vs := by
  induction vs with
  | nil => simp [writeItems]
  | cons v vs ih =>
    obtain ⟨hv, hvs⟩ := List.forall_mem_cons.1 h
    rw [writeItems]
    simp [return_not_mem_newLine, hv level, ih hvs]

theorem return_not_mem_writeMembers
    (h : ∀ m ∈ ms, ∀ level, '\r' ∉ writeValue indent level m.2) (level : Nat) :
    '\r' ∉ writeMembers indent level ms := by
  induction ms with
  | nil => simp [writeMembers]
  | cons m ms ih =>
    obtain ⟨hm, hms⟩ := List.forall_mem_cons.1 h
    obtain ⟨k, v⟩ := m
    rw [writeMembers]
    simp [return_not_mem_newLine, return_not_mem_writeString, hm level, ih hms]

/-- **No carriage return is written** for a plain value, since a string escapes its own. -/
theorem return_not_mem_writeValue (h : Plain v) (indent level : Nat) :
    '\r' ∉ writeValue indent level v := by
  -- words, numbers and brackets hold none, and a string escapes those it has
  induction h generalizing level with
  | null =>
    rw [writeValue]
    decide
  | bool b =>
    cases b with
    | true =>
      rw [writeValue]
      decide
    | false =>
      rw [writeValue]
      decide
  | int n =>
    rw [writeValue]
    exact return_not_mem_integerText n
  | string s =>
    rw [writeValue]
    exact return_not_mem_writeString s
  | array hitems ih =>
    rename_i items
    cases items with
    | nil =>
      rw [writeValue]
      decide
    | cons v vs =>
      obtain ⟨hv, hvs⟩ := List.forall_mem_cons.1 ih
      rw [writeValue]
      simp [return_not_mem_newLine, hv, return_not_mem_writeItems hvs]
  | object hkeys hvalues ih =>
    rename_i ms
    cases ms with
    | nil =>
      rw [writeValue]
      decide
    | cons m ms =>
      obtain ⟨hm, hms⟩ := List.forall_mem_cons.1 ih
      obtain ⟨k, v⟩ := m
      rw [writeValue]
      simp [return_not_mem_newLine, return_not_mem_writeString, hm,
        return_not_mem_writeMembers hms]

end SourceCensus.Json
