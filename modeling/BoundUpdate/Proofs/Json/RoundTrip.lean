import BoundUpdate.Proofs.Conversion.Structure
import BoundUpdate.Proofs.Json.Values
import BoundUpdate.Proofs.Number.Notation
import BoundUpdate.Proofs.Text.Cutting

namespace BoundUpdate
namespace Json

/-!
# Written values read back

A text between quotes ends at the first quote that is not escaped, and a number,
a list and an object end where a comma, a closing mark or the end of the whole
text follows.  So what is written of a value is read back as this value, whatever
is written behind it.  The steps of the reader suffice: a list or an object has
two marks that are no blanks, and each of its parts has one at least.  Reader and
writer count the levels of a value alike, and what lies too deep is not written.
-/

open Value (Entries)

variable {α β : Type} {v : Value} {nesting : Nat} {s t rest : List Char}

/-- Whether a value is told by its JSON text: nothing, a truth value, an integer of at most 4300
digits, a text, or a list or a dictionary with texts as keys that holds such values. -/
inductive IsExact : Value → Prop
  | none : IsExact .none
  | bool (b : Bool) : IsExact (.bool b)
  | int {n : Int} (writable : Number.isWritable n = true) : IsExact (.int n)
  | text (s : String) : IsExact (.text s)
  | list {items : List Value} (items_exact : ∀ v ∈ items, IsExact v) : IsExact (.list items)
  | dict {entries : Entries} (named : Entries.Named entries)
      (entries_exact : ∀ entry ∈ entries, IsExact entry.2) : IsExact (.dict entries)

/-- Whether a reader takes something off the front of a text and leaves the rest. -/
def Takes (x : Except ReadError (Taken α)) (a : α) (rest : List Char) : Prop :=
  ∃ last, x = .ok (a, last, rest)

theorem Takes.of_ok (a : α) (last : Nat) (rest : List Char) : Takes (.ok (a, last, rest)) a rest :=
  ⟨last, rfl⟩

theorem Takes.bind {x : Except ReadError (Taken α)} {f : Taken α → Except ReadError (Taken β)}
    {a : α} {b : β} {more : List Char} (hx : Takes x a rest)
    (hf : ∀ last, Takes (f (a, last, rest)) b more) : Takes (x >>= f) b more := by
  obtain ⟨last, rfl⟩ := hx
  exact hf last

/-- Whether what follows a value ends it. -/
def Ends (rest : List Char) : Prop := ∀ c ∈ rest.head?, c = ',' ∨ c = ']' ∨ c = '\x7d'

theorem ends_nil : Ends [] := fun _ h => nomatch h

theorem ends_cons {c : Char} (h : c = ',' ∨ c = ']' ∨ c = '\x7d') (rest : List Char) :
    Ends (c :: rest) := by
  rintro _ ⟨⟩
  exact h

theorem Ends.head?_false {p : Char → Bool} (h : Ends rest)
    (hp : p ',' = false ∧ p ']' = false ∧ p '\x7d' = false) : ∀ c ∈ rest.head?, p c = false := by
  intro c hc
  rcases h c hc with rfl | rfl | rfl
  · exact hp.1
  · exact hp.2.1
  · exact hp.2.2

/-- How many characters of a text are no blanks. -/
def solid (s : List Char) : Nat := (s.filter fun c => !isBlank c).length

theorem depthBound_eq (s : List Char) : depthBound s = 2 * solid s + 1 := rfl

theorem solid_append (s t : List Char) : solid (s ++ t) = solid s + solid t := by
  rw [solid, List.filter_append, List.length_append, solid, solid]

theorem solid_cons {c : Char} (h : isBlank c = false) (s : List Char) :
    solid (c :: s) = solid s + 1 := by
  simp [solid, h]

theorem solid_blank (s : List Char) : solid (' ' :: s) = solid s := rfl

/-! ## Quoted texts -/

/-- Four hexadecimal digits spell the number they were written for. -/
theorem exists_hexDigits {n : Nat} (h : n < 65536) :
    ∃ a b c d, Text.hexDigits 4 n = [a, b, c, d] ∧ fourDigits? a b c d = some n := by
  refine ⟨Text.hexDigit (n / 16 / 16 / 16 % 16), Text.hexDigit (n / 16 / 16 % 16),
    Text.hexDigit (n / 16 % 16), Text.hexDigit (n % 16), by simp [Text.hexDigits], ?_⟩
  have hdigit : ∀ m, Text.hexValue? (Text.hexDigit (m % 16)) = some (m % 16) := fun m =>
    Text.hexValue?_hexDigit (Nat.mod_lt m (by decide))
  simp only [fourDigits?, hdigit, Option.bind_eq_bind, Option.bind_some, Option.pure_def,
    Option.some.injEq]
  omega

theorem takeQuoted_short {c x : Char} (h : shortEscape? c = some x) (start position : Nat)
    (rest : List Char) :
    takeQuoted start position ('\\' :: c :: rest) = (do
      let (s, last, rest) ← takeQuoted start (position + 2) rest
      return (x :: s, last, rest)) := by
  have hunit : c ≠ 'u' := by
    rintro rfl
    cases h
  rw [takeQuoted]
  · rw [h]
  all_goals simp [hunit]

theorem takeQuoted_unit {n : Nat} (h : n < 0xD800) (start position : Nat) (hrest : rest ≠ []) :
    takeQuoted start position ('\\' :: 'u' :: (Text.hexDigits 4 n ++ rest)) = (do
      let (s, last, rest) ← takeQuoted start (position + 6) rest
      return (Char.ofNat n :: s, last, rest)) := by
  obtain ⟨a, b, c, d, hdigits, hn⟩ := exists_hexDigits (n := n) (by omega)
  have hpair : pairedCode (position + 6) n rest = .ok (n, 0) := by
    have hhigh : isHighUnit n = false := by
      simp [isHighUnit]
      omega
    simp [pairedCode, hhigh]
  rw [hdigits]
  simp only [List.cons_append, List.nil_append]
  rw [takeQuoted]
  simp only [hrest, if_false, hn, hpair, except_ok_bind, Nat.add_zero, List.drop_zero]

/-- The ways in which a character is written between quotes. -/
inductive Escaped (c : Char) : List Char → Prop
  | short {x : Char} : shortEscape? x = some c → Escaped c ['\\', x]
  | unit : c.toNat < 0x20 → Escaped c ('\\' :: 'u' :: Text.hexDigits 4 c.toNat)
  | plain : c ≠ '"' → c ≠ '\\' → ¬ c.toNat < 0x20 → Escaped c [c]

theorem escaped_escape (c : Char) : Escaped c (escape c) := by
  unfold escape
  split
  next h => rw [h]; exact .short rfl
  next hquote =>
    split
    next h => rw [h]; exact .short rfl
    next hescape =>
      -- the five controls with an escape of their own
      iterate 5
        split
        next h => rw [h]; exact .short rfl
      split
      next h => exact .unit h
      next h => exact .plain hquote hescape h

/-- A character between quotes is read back, whatever is written behind it. -/
theorem takes_escape {more : List Char} (c : Char) (start position : Nat) (hmore : more ≠ [])
    (h : ∀ position, Takes (takeQuoted start position more) s rest) :
    Takes (takeQuoted start position (escape c ++ more)) (c :: s) rest := by
  have hnext : ∀ position, Takes (do
      let (s, last, rest) ← takeQuoted start position more
      return (c :: s, last, rest)) (c :: s) rest := fun position =>
    (h position).bind fun last => Takes.of_ok (c :: s) last rest
  have hescaped := escaped_escape c
  generalize escape c = written at hescaped ⊢
  cases hescaped with
  | short hx =>
    rw [List.cons_append, List.singleton_append, takeQuoted_short hx]
    exact hnext _
  | unit hc =>
    rw [List.cons_append, List.cons_append, takeQuoted_unit (by omega) _ _ hmore,
      Char.ofNat_toNat]
    exact hnext _
  | plain hquote hescape hc =>
    rw [List.singleton_append, takeQuoted_cons hquote hescape hc]
    exact hnext _

theorem takes_quoted (s rest : List Char) (start position : Nat) :
    Takes (takeQuoted start position (s.flatMap escape ++ '"' :: rest)) s rest := by
  induction s generalizing position with
  | nil =>
    rw [List.flatMap_nil, List.nil_append, takeQuoted]
    exact Takes.of_ok [] _ rest
  | cons c s ih =>
    rw [List.flatMap_cons, List.append_assoc]
    exact takes_escape c start position (by simp) fun position => ih position

/-! ## Numbers and words -/

theorem Ends.takeFraction_eq (h : Ends rest) : takeFraction rest = ([], rest) := by
  refine takeFraction_of_not ?_
  rintro ⟨d, more, -, rfl⟩
  rcases h '.' rfl with hc | hc | hc <;> cases hc

theorem Ends.takePower_eq (h : Ends rest) : takePower rest = ([], rest) := by
  cases rest with
  | nil => rfl
  | cons c more =>
    refine takePower_of_not ?_ more
    rcases h c rfl with rfl | rfl | rfl <;> decide

/-- The notation of a number is a zero, or digits that do not start with one. -/
theorem takeWhole_natChars (n : Nat) (h : Ends rest) :
    takeWhole (Number.natChars n ++ rest) = some (Number.natChars n, rest) := by
  have hdigits : ∀ c ∈ Number.natChars n, Number.isDigit c = true := fun _ hc =>
    Number.isDigit_of_mem_natChars hc
  have hstop : ∀ c ∈ rest.head?, Number.isDigit c = false := h.head?_false (by decide)
  cases hchars : Number.natChars n with
  | nil => exact absurd hchars (Number.natChars_ne_nil n)
  | cons d ds =>
    rw [hchars] at hdigits
    obtain ⟨hd, hds⟩ := List.forall_mem_cons.1 hdigits
    by_cases hzero : d = '0'
    · subst hzero
      -- without the zero the notation would be shorter
      cases ds with
      | nil => rfl
      | cons e ds =>
        have hspelled : Number.readDigits (e :: ds) = n := by
          rw [← Number.readDigits_natChars n, hchars]
          rfl
        have hshort := Number.length_natChars_le (List.cons_ne_nil e ds) hds
        rw [hspelled, hchars, List.length_cons] at hshort
        exact absurd hshort (Nat.not_succ_le_self _)
    · rw [List.cons_append, takeWhole_cons hzero, if_pos hd, Text.takeWhile_run hds hstop,
        Text.dropWhile_run hds hstop]

theorem exists_takeUnsigned {n : Nat} (hn : (Number.natChars n).length ≤ Number.digitLimit)
    (negative : Bool) (h : Ends rest) :
    ∃ size, takeUnsigned negative (Number.natChars n ++ rest) =
      some (.ok (.int (if negative then -n else n)), size, rest) := by
  refine ⟨(Number.natChars n).length + 0 + 0, ?_⟩
  rw [takeUnsigned, takeWhole_natChars n h]
  simp [h.takeFraction_eq, h.takePower_eq, Nat.not_lt.2 hn, Number.readDigits_natChars]

/-- Neither of the first two characters of a word is a digit. -/
theorem words_start : ∀ word ∈ words,
    2 ≤ word.1.length ∧ ((word.1.take 2).all fun c => !Number.isDigit c) = true := by decide

theorem takeWord?_eq_none {front : List Char} {d : Char} (hfront : front.length ≤ 1)
    (hd : Number.isDigit d = true) (position : Nat) (more : List Char) :
    takeWord? position (front ++ d :: more) = none := by
  rw [takeWord?, Option.map_eq_none_iff, List.find?_eq_none]
  intro word hword hstarts
  obtain ⟨hlength, hdigits⟩ := words_start word hword
  have hlt : front.length < word.1.length := by omega
  have hplace : word.1[front.length] = d := by
    rw [List.IsPrefix.getElem (List.isPrefixOf_iff_prefix.1 hstarts) hlt]
    simp
  have hmem : d ∈ word.1.take 2 := by
    rw [← hplace]
    exact List.mem_take_iff_getElem.2 ⟨front.length, by omega, rfl⟩
  have hnot := List.all_eq_true.1 hdigits d hmem
  rw [hd] at hnot
  cases hnot

/-- The digits of an integer, behind a sign if it is negative. -/
theorem exists_intText (n : Int) : ∃ d more, Number.isDigit d = true ∧
    Number.natChars n.natAbs = d :: more ∧
    (Number.intText n).toList = (if n < 0 then ['-'] else []) ++ d :: more := by
  cases hchars : Number.natChars n.natAbs with
  | nil => exact absurd hchars (Number.natChars_ne_nil _)
  | cons d more =>
    refine ⟨d, more, Number.isDigit_of_mem_natChars (hchars ▸ List.mem_cons_self), rfl, ?_⟩
    rw [Number.intText]
    split <;> simp [Number.natText, hchars]

theorem takes_int {n : Int} (hn : Number.isWritable n = true) (h : Ends rest) (position : Nat) :
    Takes (takePlain position ((Number.intText n).toList ++ rest)) (.int n) rest := by
  have hlength : (Number.natChars n.natAbs).length ≤ Number.digitLimit := by
    simpa [Number.isWritable, Number.natChars] using hn
  obtain ⟨d, more, hd, hchars, htext⟩ := exists_intText n
  have hword : takeWord? position ((Number.intText n).toList ++ rest) = none := by
    rw [htext, List.append_assoc, List.cons_append]
    refine takeWord?_eq_none ?_ hd position _
    split <;> simp
  rw [takePlain, hword, htext, ← hchars]
  by_cases hneg : n < 0
  · obtain ⟨size, hsize⟩ := exists_takeUnsigned hlength true h
    have hvalue : -(n.natAbs : Int) = n := by omega
    rw [if_pos hneg, List.singleton_append, List.cons_append]
    simp only [takeNumber_minus, hsize, if_true, hvalue]
    exact Takes.of_ok _ _ rest
  · obtain ⟨size, hsize⟩ := exists_takeUnsigned hlength false h
    have hvalue : (n.natAbs : Int) = n := by omega
    have hsign : ∀ more, Number.natChars n.natAbs ++ rest ≠ '-' :: more := by
      intro more heq
      rw [hchars] at heq
      rw [(List.cons.inj heq).1] at hd
      revert hd
      decide
    rw [if_neg hneg, List.nil_append]
    simp only [takeNumber_of_not hsign, hsize, Bool.false_eq_true, if_false, hvalue]
    exact Takes.of_ok _ _ rest

/-! ## Values -/

/-- Whether a text starts like a value: with a character that is no blank, closes no list and does
not mark the order of bytes. -/
def StartsValue (t : List Char) : Prop :=
  ∃ c more, t = c :: more ∧ isBlank c = false ∧ c ≠ ']' ∧ c ≠ '\uFEFF'

/-- Whether a text is written of a value and the value is read back off it, whatever ends it;
`nesting` levels are left. -/
structure Legible (nesting : Nat) (v : Value) (t : List Char) : Prop where
  written : write nesting v = .ok t
  starts : StartsValue t
  takes : ∀ {fuel : Nat} (position : Nat) {rest : List Char}, 2 * solid t ≤ fuel → Ends rest →
    Takes (takeValue nesting fuel position (t ++ rest)) v rest

theorem StartsValue.append (h : StartsValue t) (more : List Char) : StartsValue (t ++ more) := by
  obtain ⟨c, front, rfl, hc⟩ := h
  exact ⟨c, front ++ more, rfl, hc⟩

theorem skipBlanks_mark {c : Char} (h : isBlank c = false) (position : Nat) (rest : List Char) :
    skipBlanks position (c :: rest) = (position, c :: rest) := by
  simp [skipBlanks, h]

/-- A blank in front of a value is all that is skipped there. -/
theorem StartsValue.skipBlanks_eq (h : StartsValue t) (position : Nat) (rest : List Char) :
    skipBlanks position (' ' :: (t ++ rest)) = (position + 1, t ++ rest) := by
  obtain ⟨c, more, rfl, hc, -⟩ := h
  exact skipBlanks_mark hc (position + 1) (more ++ rest)

/-- What is no text, list or object is read alike at every depth but the lowest. -/
theorem legible_plain {c : Char} {more : List Char}
    (hwritten : write nesting v = .ok (c :: more))
    (hc : (isBlank c = false ∧ c ≠ ']' ∧ c ≠ '\uFEFF') ∧ c ≠ '"' ∧ c ≠ '\x7b' ∧ c ≠ '[')
    (htakes : ∀ position rest, Ends rest → Takes (takePlain position (c :: more ++ rest)) v rest) :
    Legible nesting v (c :: more) where
  written := hwritten
  starts := ⟨c, more, rfl, hc.1⟩
  takes := by
    intro fuel position rest hfuel hrest
    rw [solid_cons hc.1.1] at hfuel
    obtain ⟨fuel, rfl⟩ : ∃ depth, fuel = depth + 1 := ⟨fuel - 1, by omega⟩
    rw [takeValue_plain]
    · exact htakes position rest hrest
    · rintro c' rest' heq
      rw [List.cons_append] at heq
      obtain ⟨rfl, -⟩ := List.cons.inj heq
      exact hc.2

theorem legible_int {n : Int} (hn : Number.isWritable n = true) :
    Legible nesting (.int n) (Number.intText n).toList := by
  obtain ⟨d, more, hd, -, htext⟩ := exists_intText n
  have hwritten : write nesting (.int n) = .ok (Number.intText n).toList := by
    rw [write, integer, if_pos hn]
  have hdigit : (isBlank d = false ∧ d ≠ ']' ∧ d ≠ '\uFEFF') ∧ d ≠ '"' ∧ d ≠ '\x7b' ∧ d ≠ '[' := by
    have hne : ∀ c, Number.isDigit c = false → d ≠ c := by
      rintro c hc rfl
      rw [hd] at hc
      cases hc
    refine ⟨⟨?_, hne _ (by decide), hne _ (by decide)⟩, hne _ (by decide), hne _ (by decide),
      hne _ (by decide)⟩
    have hblank : ∀ c, Number.isDigit c = false → (d == c) = false := fun c hc =>
      beq_eq_false_iff_ne.2 (hne c hc)
    rw [isBlank, hblank ' ' (by decide), hblank '\t' (by decide), hblank '\n' (by decide),
      hblank '\r' (by decide)]
    rfl
  have htakes := fun position rest (hrest : Ends rest) => takes_int hn hrest position
  rw [htext] at hwritten htakes ⊢
  by_cases hneg : n < 0
  · rw [if_pos hneg] at hwritten htakes ⊢
    exact legible_plain hwritten (by decide) htakes
  · rw [if_neg hneg] at hwritten htakes ⊢
    exact legible_plain hwritten hdigit htakes

theorem legible_text (s : String) : Legible nesting (.text s) (quote s.toList) where
  written := by rw [write]
  starts := ⟨'"', _, rfl, by decide⟩
  takes := by
    intro fuel position rest hfuel _
    rw [quote, List.cons_append, solid_cons (by decide)] at hfuel
    obtain ⟨fuel, rfl⟩ : ∃ depth, fuel = depth + 1 := ⟨fuel - 1, by omega⟩
    rw [quote, List.append_assoc, List.cons_append, List.singleton_append, takeValue]
    refine (takes_quoted s.toList rest _ _).bind fun last => ?_
    dsimp only
    rw [String.ofList_toList]
    exact Takes.of_ok _ last rest

/-! ## Lists -/

/-- Items in front of others are written with a comma between them. -/
theorem writeItems_cons_cons (nesting : Nat) (v next : Value) (others : List Value) :
    writeItems nesting (v :: next :: others) = (do
      let first ← write nesting v
      let rest ← writeItems nesting (next :: others)
      return first ++ ',' :: ' ' :: rest) := by
  rw [writeItems]
  exact List.cons_ne_nil _ _

/-- What is written of several values is read back as these values. -/
theorem exists_writeItems {items : List Value} (hne : items ≠ [])
    (h : ∀ v ∈ items, ∃ t, Legible nesting v t) :
    ∃ t, writeItems nesting items = .ok t ∧ StartsValue t ∧
      ∀ fuel position rest, 2 * solid t + 1 ≤ fuel →
        Takes (takeItems nesting fuel position (t ++ ']' :: rest)) items rest := by
  induction items with
  | nil => exact absurd rfl hne
  | cons v others ih =>
    obtain ⟨⟨t, hv⟩, hothers⟩ := List.forall_mem_cons.1 h
    cases others with
    | nil =>
      refine ⟨t, by rw [writeItems, hv.written], hv.starts, fun fuel position rest hfuel => ?_⟩
      obtain ⟨fuel, rfl⟩ : ∃ depth, fuel = depth + 1 := ⟨fuel - 1, by omega⟩
      rw [takeItems]
      refine (hv.takes position (by omega) (ends_cons (by decide) rest)).bind fun last => ?_
      dsimp only
      rw [skipBlanks_mark (by decide)]
      exact Takes.of_ok [v] _ rest
    | cons next others =>
      obtain ⟨more, hmore, hstarts, hread⟩ := ih (List.cons_ne_nil _ _) hothers
      refine ⟨t ++ ',' :: ' ' :: more, ?_, hv.starts.append _, ?_⟩
      · rw [writeItems_cons_cons, hv.written, hmore]
        rfl
      · intro fuel position rest hfuel
        rw [solid_append, solid_cons (by decide), solid_blank] at hfuel
        obtain ⟨fuel, rfl⟩ : ∃ depth, fuel = depth + 1 := ⟨fuel - 1, by omega⟩
        rw [takeItems, List.append_assoc, List.cons_append, List.cons_append]
        refine (hv.takes position (by omega) (ends_cons (by decide) _)).bind fun last => ?_
        dsimp only
        rw [skipBlanks_mark (by decide)]
        change Takes (takeItems nesting fuel (skipBlanks _ (' ' :: (more ++ ']' :: rest))).1
          (skipBlanks _ (' ' :: (more ++ ']' :: rest))).2 >>= _) _ _
        rw [hstarts.skipBlanks_eq]
        exact (hread fuel _ rest (by omega)).bind fun last => Takes.of_ok _ last rest

theorem legible_list {items : List Value} (h : ∀ v ∈ items, ∃ t, Legible nesting v t) :
    ∃ t, Legible (nesting + 1) (.list items) t := by
  by_cases hne : items = []
  · subst hne
    refine ⟨['[', ']'], rfl, ⟨'[', _, rfl, by decide⟩, ?_⟩
    intro fuel position rest hfuel _
    obtain ⟨fuel, rfl⟩ : ∃ depth, fuel = depth + 1 := ⟨fuel - 1, by
      have hsolid : solid ['[', ']'] = 2 := by decide
      omega⟩
    rw [List.cons_append, List.singleton_append, takeValue, Nesting.enter_succ, except_ok_bind,
      skipBlanks_mark (by decide)]
    exact Takes.of_ok (Value.list []) _ rest
  · obtain ⟨t, hwritten, hstarts, hread⟩ := exists_writeItems hne h
    refine ⟨'[' :: t ++ [']'], by rw [write, Nesting.enter_succ, except_ok_bind, hwritten]; rfl,
      ⟨'[', _, rfl, by decide⟩, ?_⟩
    intro fuel position rest hfuel _
    rw [List.cons_append, solid_cons (by decide), solid_append] at hfuel
    obtain ⟨fuel, rfl⟩ : ∃ depth, fuel = depth + 1 := ⟨fuel - 1, by omega⟩
    have hitems := fun position => hread fuel position rest (by omega)
    obtain ⟨c, more, rfl, hc, hclose, -⟩ := hstarts
    rw [List.append_assoc, List.cons_append, List.singleton_append, takeValue, Nesting.enter_succ,
      except_ok_bind, List.cons_append, skipBlanks_mark hc]
    dsimp only
    split
    next heq => exact absurd (List.cons.inj heq).1 hclose
    next => exact (hitems _).bind fun last => Takes.of_ok _ last rest

/-! ## Dictionaries -/

/-- What is read behind an entry. -/
def takeFurther (nesting fuel position : Nat) (entries : Entries) (s : List Char) :
    Except ReadError (Taken Entries) :=
  match s with
  | '\x7d' :: rest => return (entries, position + 1, rest)
  | ',' :: rest =>
    let (position, rest) := skipBlanks (position + 1) rest
    takeEntries nesting fuel position entries rest
  | _ => expected "Expecting ',' delimiter" position

/-- An entry in front of others or of the closing brace is read and stored. -/
theorem exists_takeEntries {fuel : Nat} (hv : Legible nesting v t) (hfuel : 2 * solid t ≤ fuel)
    (name : String) (position : Nat) (before : Entries) (c : Char) (rest : List Char)
    (hc : isBlank c = false) (hrest : Ends (c :: rest)) :
    ∃ last, takeEntries nesting (fuel + 1) position before
        (quote name.toList ++ ':' :: ' ' :: (t ++ c :: rest)) =
      takeFurther nesting fuel last (before.insert (.text name) v) (c :: rest) := by
  obtain ⟨named, hnamed⟩ := takes_quoted name.toList (':' :: ' ' :: (t ++ c :: rest)) position
    (position + 1)
  obtain ⟨last, hlast⟩ := hv.takes (named + 1 + 1) hfuel hrest
  refine ⟨last, ?_⟩
  rw [quote, List.append_assoc, List.cons_append, List.singleton_append, takeEntries, hnamed,
    except_ok_bind]
  dsimp only
  rw [skipBlanks_mark (by decide)]
  change (takeValue nesting fuel (skipBlanks (named + 1) (' ' :: (t ++ c :: rest))).1
    (skipBlanks (named + 1) (' ' :: (t ++ c :: rest))).2 >>= _) = _
  rw [hv.starts.skipBlanks_eq, hlast, except_ok_bind]
  dsimp only
  rw [skipBlanks_mark hc, String.ofList_toList]
  rfl

theorem writeEntries_cons_cons (nesting : Nat) (k v : Value) (next : Value × Value)
    (others : Entries) :
    writeEntries nesting ((k, v) :: next :: others) = (do
      let name ← key k
      let body ← write nesting v
      let rest ← writeEntries nesting (next :: others)
      return quote name ++ ':' :: ' ' :: body ++ ',' :: ' ' :: rest) := by
  rw [writeEntries]
  exact List.cons_ne_nil _ _

/-- What is written of entries is read back as these entries, behind those read before. -/
theorem exists_writeEntries {entries : Entries} (hne : entries ≠ [])
    (h : ∀ entry ∈ entries, ∃ t, Legible nesting entry.2 t) {before : Entries}
    (named : Entries.Named (before ++ entries)) :
    ∃ t, writeEntries nesting entries = .ok t ∧ (∃ more, t = '"' :: more) ∧
      ∀ fuel position rest, 2 * solid t + 1 ≤ fuel →
        Takes (takeEntries nesting fuel position before (t ++ '\x7d' :: rest))
          (before ++ entries) rest := by
  induction entries generalizing before with
  | nil => exact absurd rfl hne
  | cons entry others ih =>
    obtain ⟨k, v⟩ := entry
    obtain ⟨⟨t, hv⟩, hothers⟩ := List.forall_mem_cons.1 h
    obtain ⟨name, hname⟩ := named.texts (k, v) (List.mem_append_right _ List.mem_cons_self)
    obtain rfl : k = .text name := hname
    have hkey : key (.text name) = .ok name.toList := rfl
    have hnew : Entries.insert before (.text name) v = before ++ [(.text name, v)] := by
      refine Entries.insert_of_new fun entry hentry => ?_
      exact (List.pairwise_append.1 named.apart).2.2 entry hentry _ List.mem_cons_self
    cases others with
    | nil =>
      refine ⟨quote name.toList ++ ':' :: ' ' :: t, ?_, ⟨_, rfl⟩,
        fun fuel position rest hfuel => ?_⟩
      · rw [writeEntries, hkey, hv.written]
        rfl
      · rw [solid_append, solid_cons (by decide), solid_blank] at hfuel
        obtain ⟨fuel, rfl⟩ : ∃ depth, fuel = depth + 1 := ⟨fuel - 1, by omega⟩
        have hdepth : 2 * solid t ≤ fuel := by omega
        obtain ⟨last, hlast⟩ := exists_takeEntries hv hdepth name position before '\x7d' rest
          (by decide) (ends_cons (by decide) _)
        rw [List.append_assoc, List.cons_append, List.cons_append, hlast, hnew]
        exact Takes.of_ok _ _ rest
    | cons next others =>
      have hnamed : Entries.Named ((before ++ [(.text name, v)]) ++ next :: others) := by
        rwa [List.append_assoc]
      obtain ⟨more, hmore, hstarts, hread⟩ := ih (List.cons_ne_nil _ _) hothers hnamed
      refine ⟨quote name.toList ++ ':' :: ' ' :: t ++ ',' :: ' ' :: more, ?_, ⟨_, rfl⟩,
        fun fuel position rest hfuel => ?_⟩
      · rw [writeEntries_cons_cons, hkey, hv.written, hmore]
        rfl
      · rw [solid_append, solid_append, solid_cons (by decide), solid_blank, solid_cons (by decide),
          solid_blank] at hfuel
        obtain ⟨fuel, rfl⟩ : ∃ depth, fuel = depth + 1 := ⟨fuel - 1, by omega⟩
        have hdepth : 2 * solid t ≤ fuel := by omega
        obtain ⟨last, hlast⟩ := exists_takeEntries hv hdepth name position before ','
          (' ' :: (more ++ '\x7d' :: rest)) (by decide) (ends_cons (by decide) _)
        have hvalue : StartsValue more := by
          obtain ⟨tail, rfl⟩ := hstarts
          exact ⟨'"', tail, rfl, by decide⟩
        have hfurther := hread fuel (last + 1 + 1) rest (by omega)
        rw [List.append_assoc] at hfurther
        rw [List.append_assoc, List.append_assoc, List.cons_append, List.cons_append,
          List.cons_append, List.cons_append, hlast, hnew]
        change Takes (takeEntries nesting fuel (skipBlanks _ (' ' :: (more ++ '\x7d' :: rest))).1 _
          (skipBlanks _ (' ' :: (more ++ '\x7d' :: rest))).2) _ _
        rw [hvalue.skipBlanks_eq]
        exact hfurther

theorem legible_dict {entries : Entries} (named : Entries.Named entries)
    (h : ∀ entry ∈ entries, ∃ t, Legible nesting entry.2 t) :
    ∃ t, Legible (nesting + 1) (.dict entries) t := by
  by_cases hne : entries = []
  · subst hne
    refine ⟨['\x7b', '\x7d'], rfl, ⟨'\x7b', _, rfl, by decide⟩, ?_⟩
    intro fuel position rest hfuel _
    obtain ⟨fuel, rfl⟩ : ∃ depth, fuel = depth + 1 := ⟨fuel - 1, by
      have hsolid : solid ['\x7b', '\x7d'] = 2 := by decide
      omega⟩
    rw [List.cons_append, List.singleton_append, takeValue, Nesting.enter_succ, except_ok_bind,
      skipBlanks_mark (by decide)]
    exact Takes.of_ok (Value.dict []) _ rest
  · have hnamed : Entries.Named ([] ++ entries) := by rwa [List.nil_append]
    obtain ⟨t, hwritten, ⟨more, rfl⟩, hread⟩ := exists_writeEntries hne h hnamed
    have hwhole : write (nesting + 1) (.dict entries) =
        .ok ('\x7b' :: ('"' :: more) ++ ['\x7d']) := by
      rw [write, Nesting.enter_succ, except_ok_bind, hwritten]
      rfl
    refine ⟨'\x7b' :: ('"' :: more) ++ ['\x7d'], hwhole, ⟨'\x7b', _, rfl, by decide⟩, ?_⟩
    intro fuel position rest hfuel _
    rw [List.cons_append, solid_cons (by decide), solid_append] at hfuel
    obtain ⟨fuel, rfl⟩ : ∃ depth, fuel = depth + 1 := ⟨fuel - 1, by omega⟩
    rw [List.append_assoc, List.cons_append, List.singleton_append, takeValue, Nesting.enter_succ,
      except_ok_bind, List.cons_append, skipBlanks_mark (by decide)]
    exact (hread fuel _ rest (by omega)).bind fun last => Takes.of_ok _ last rest

/-! ## Levels -/

theorem nestsWithin_of_mem_items {items : List Value}
    (h : Value.itemsNestWithin items nesting = true) :
    ∀ v ∈ items, v.nestsWithin nesting = true := by
  induction items with
  | nil => exact List.forall_mem_nil _
  | cons v rest ih =>
    rw [Value.itemsNestWithin, Bool.and_eq_true] at h
    exact List.forall_mem_cons.2 ⟨h.1, ih h.2⟩

theorem nestsWithin_of_mem_entries {entries : Entries}
    (h : Value.entriesNestWithin entries nesting = true) :
    ∀ entry ∈ entries, entry.2.nestsWithin nesting = true := by
  induction entries with
  | nil => exact List.forall_mem_nil _
  | cons entry rest ih =>
    rw [Value.entriesNestWithin, Bool.and_eq_true] at h
    exact List.forall_mem_cons.2 ⟨h.1, ih h.2⟩

theorem IsExact.exists_legible (h : IsExact v) (hnests : v.nestsWithin nesting = true) :
    ∃ t, Legible nesting v t := by
  induction h generalizing nesting with
  | none => exact ⟨_, legible_plain rfl (by decide) fun _ rest _ => Takes.of_ok _ _ rest⟩
  | bool b =>
    cases b
    · exact ⟨_, legible_plain rfl (by decide) fun _ rest _ => Takes.of_ok _ _ rest⟩
    · exact ⟨_, legible_plain rfl (by decide) fun _ rest _ => Takes.of_ok _ _ rest⟩
  | int writable => exact ⟨_, legible_int writable⟩
  | text s => exact ⟨_, legible_text s⟩
  | list _ ih =>
    cases nesting with
    | zero => cases hnests
    | succ nesting =>
      have hitems := nestsWithin_of_mem_items hnests
      exact legible_list fun v hv => ih v hv (hitems v hv)
  | dict named _ ih =>
    cases nesting with
    | zero => cases hnests
    | succ nesting =>
      have hentries := nestsWithin_of_mem_entries hnests
      exact legible_dict named fun entry hentry => ih entry hentry (hentries entry hentry)

/-- Items are written up to the first one that lies too deep. -/
theorem writeItems_tooDeep {items : List Value}
    (hwritten : ∀ v ∈ items, v.nestsWithin nesting = true → ∃ t, write nesting v = .ok t)
    (hdeep : ∀ v ∈ items, v.nestsWithin nesting = false →
      write nesting v = .error tooDeeplyWritten)
    (hnests : Value.itemsNestWithin items nesting = false) :
    writeItems nesting items = .error tooDeeplyWritten := by
  induction items with
  | nil => cases hnests
  | cons v rest ih =>
    obtain ⟨hv, hrest⟩ := List.forall_mem_cons.1 hwritten
    obtain ⟨hvdeep, hrestdeep⟩ := List.forall_mem_cons.1 hdeep
    rw [Value.itemsNestWithin] at hnests
    cases hfirst : v.nestsWithin nesting with
    | false =>
      cases rest with
      | nil => exact hvdeep hfirst
      | cons next others =>
        rw [writeItems_cons_cons, hvdeep hfirst]
        rfl
    | true =>
      rw [hfirst, Bool.true_and] at hnests
      obtain ⟨t, ht⟩ := hv hfirst
      have hothers := ih hrest hrestdeep hnests
      cases rest with
      | nil => cases hnests
      | cons next others =>
        rw [writeItems_cons_cons, ht, except_ok_bind, hothers]
        rfl

/-- Entries with texts for names are written up to the first one that lies too deep. -/
theorem writeEntries_tooDeep {entries : Entries}
    (hnames : ∀ entry ∈ entries, ∃ name, entry.1 = .text name)
    (hwritten : ∀ entry ∈ entries,
      entry.2.nestsWithin nesting = true → ∃ t, write nesting entry.2 = .ok t)
    (hdeep : ∀ entry ∈ entries, entry.2.nestsWithin nesting = false →
      write nesting entry.2 = .error tooDeeplyWritten)
    (hnests : Value.entriesNestWithin entries nesting = false) :
    writeEntries nesting entries = .error tooDeeplyWritten := by
  induction entries with
  | nil => cases hnests
  | cons entry rest ih =>
    obtain ⟨⟨name, hname⟩, hrestnames⟩ := List.forall_mem_cons.1 hnames
    obtain ⟨k, v⟩ := entry
    obtain rfl : k = .text name := hname
    obtain ⟨hv, hrest⟩ := List.forall_mem_cons.1 hwritten
    obtain ⟨hvdeep, hrestdeep⟩ := List.forall_mem_cons.1 hdeep
    have hkey : key (.text name) = .ok name.toList := rfl
    rw [Value.entriesNestWithin] at hnests
    cases hfirst : v.nestsWithin nesting with
    | false =>
      cases rest with
      | nil =>
        rw [writeEntries, hkey, except_ok_bind, hvdeep hfirst]
        rfl
      | cons next others =>
        rw [writeEntries_cons_cons, hkey, except_ok_bind, hvdeep hfirst]
        rfl
    | true =>
      rw [hfirst, Bool.true_and] at hnests
      obtain ⟨t, ht⟩ := hv hfirst
      have hothers := ih hrestnames hrest hrestdeep hnests
      cases rest with
      | nil => cases hnests
      | cons next others =>
        rw [writeEntries_cons_cons, hkey, except_ok_bind, ht, except_ok_bind, hothers]
        rfl

/-- What lies too deep is not written. -/
theorem IsExact.write_tooDeep (h : IsExact v) (hnests : v.nestsWithin nesting = false) :
    write nesting v = .error tooDeeplyWritten := by
  induction h generalizing nesting with
  | none => cases hnests
  | bool b => cases hnests
  | int _ => cases hnests
  | text s => cases hnests
  | list items_exact ih =>
    cases nesting with
    | zero => rw [write, Nesting.enter_zero]; rfl
    | succ nesting =>
      have hitems := writeItems_tooDeep
        (fun v hv hnests => ((items_exact v hv).exists_legible hnests).imp fun _ ht => ht.written)
        (fun v hv => ih v hv) hnests
      rw [write, Nesting.enter_succ, except_ok_bind, hitems]
      rfl
  | dict named entries_exact ih =>
    cases nesting with
    | zero => rw [write, Nesting.enter_zero]; rfl
    | succ nesting =>
      have hentries := writeEntries_tooDeep named.texts
        (fun entry hentry hnests =>
          ((entries_exact entry hentry).exists_legible hnests).imp fun _ ht => ht.written)
        (fun entry hentry => ih entry hentry) hnests
      rw [write, Nesting.enter_succ, except_ok_bind, hentries]
      rfl

/-! ## The whole text -/

/-- The whole text that is written of a value holds this value. -/
theorem Legible.read_eq (h : Legible nesting v t) : read t nesting = .ok v := by
  have hdepth : 2 * solid t ≤ depthBound t := by
    rw [depthBound_eq]
    omega
  obtain ⟨last, hlast⟩ := h.takes 0 hdepth ends_nil
  obtain ⟨c, more, rfl, hc, -, hmark⟩ := h.starts
  rw [List.append_nil] at hlast
  unfold read
  split
  next heq => exact absurd (List.cons.inj heq).1 hmark
  next =>
    rw [skipBlanks_mark hc]
    dsimp only
    rw [hlast]
    rfl

end Json

namespace Conversion

open Json Lookup
open Value (Entries)

theorem tellsClass_of_isExact {v : Value} (h : IsExact v) : tellsClass v = false := by
  cases h <;> rfl

theorem isDict_of_isExact {v : Value} (h : IsExact v) (hdict : IsDictionary v) :
    v.isDict = true := by
  rcases hdict with hdict | htold
  · exact hdict
  · rw [tells_of_silent (tellsClass_of_isExact h)] at htold
    cases htold.eq_of_pure

/-- What an exact value that no driver takes is bound as is its JSON text. -/
theorem standard_of_isExact {v : Value} (h : IsExact v) (hstructural : Structural v)
    (nesting : Nat) : standard v nesting = jsonText nesting v := by
  have hsilent := tellsClass_of_isExact h
  cases hstructural with
  | member m => cases h
  | told htold =>
    rw [TellsMember, tells_of_silent hsilent] at htold
    cases htold.eq_of_pure
  | dictionary hdict => exact standard_of_isDict (isDict_of_isExact h hdict) nesting
  | rows hitems hdict =>
    cases h with
    | list items_exact =>
      cases hitems
      have hfirst := isDict_of_isExact (items_exact _ List.mem_cons_self) hdict
      exact standard_of_rows rfl hfirst nesting
    | _ => cases hitems
  | toldRows _ htold _ _ _ =>
    rw [tellsSequence, tells_of_silent hsilent, tells_of_silent hsilent] at htold
    cases htold.eq_of_pure

/-- A dictionary, and a list that starts with one, is bound as one JSON text, which holds the same
value again, names in their order included, if its levels are not too many; otherwise it is not
bound, because they are. -/
theorem standard_reads_back {v : Value} (h : IsExact v) (hstructural : Structural v)
    (nesting : Nat) :
    (v.nestsWithin nesting = true → ∃ s : String,
      AlwaysGives (standard v nesting) (.text s) ∧ Json.read s.toList nesting = .ok v) ∧
    (v.nestsWithin nesting = false →
      AlwaysFails (standard v nesting) (.tooDeep " while encoding a JSON object")) := by
  rw [standard_of_isExact h hstructural]
  refine ⟨fun hnests => ?_, fun hnests => ?_⟩
  · obtain ⟨t, ht⟩ := h.exists_legible hnests
    have htext : Json.text v nesting = .ok (String.ofList t) := by
      rw [Json.text, ht.written]
      rfl
    refine ⟨String.ofList t, ?_, by rw [String.toList_ofList]; exact ht.read_eq⟩
    rw [jsonText_of_text htext]
    exact alwaysGives_pure _
  · intro counts
    rw [jsonText, Json.text, h.write_tooDeep hnests]
    rfl

/-- Rows with an object inside a list, escaped names and texts and a negative number. -/
theorem standard_reads_back_nested :
    let inner : Value := .list [.none, .bool false, .int (-120), .dict [(.text "", .int 0)]]
    let row : Value := .dict [(.text "b\t\"", inner), (.text "a\\", .text "\x01é\n/𝄞")]
    let rows : Value := .list [row, .dict []]
    IsExact rows ∧ Structural rows ∧ rows.nestsWithin Nesting.usual = true ∧
      ∃ s : String, AlwaysGives (standard rows) (.text s) ∧ Json.read s.toList = .ok rows := by
  intro inner row rows
  have hinner : IsExact inner := by
    refine .list ?_
    simp only [List.forall_mem_cons]
    refine ⟨.none, .bool false, .int (by cbv), .dict ⟨?_, ?_⟩ ?_, List.forall_mem_nil _⟩
    · exact List.forall_mem_singleton.2 ⟨"", rfl⟩
    · exact List.nodup_singleton _
    · exact List.forall_mem_singleton.2 (.int (by cbv))
  have hrow : IsExact row := by
    refine .dict ⟨?_, by simp⟩ ?_
    · simp only [List.forall_mem_cons]
      exact ⟨⟨_, rfl⟩, ⟨_, rfl⟩, List.forall_mem_nil _⟩
    · simp only [List.forall_mem_cons]
      exact ⟨hinner, .text _, List.forall_mem_nil _⟩
  have hrows : IsExact rows := by
    refine .list ?_
    simp only [List.forall_mem_cons]
    exact ⟨hrow, .dict Entries.named_nil (List.forall_mem_nil _), List.forall_mem_nil _⟩
  have hstructural : Structural rows := .rows rfl (.inl rfl)
  have hnests : rows.nestsWithin Nesting.usual = true := rfl
  obtain ⟨hback, -⟩ := standard_reads_back hrows hstructural Nesting.usual
  exact ⟨hrows, hstructural, hnests, hback hnests⟩

/-- Dictionaries in each other. -/
def nestedDicts : Nat → Value
  | 0 => .dict []
  | n + 1 => .dict [(.text "a", nestedDicts n)]

theorem isExact_nestedDicts (n : Nat) : IsExact (nestedDicts n) := by
  induction n with
  | zero => exact .dict Entries.named_nil (List.forall_mem_nil _)
  | succ n ih =>
    exact .dict ⟨List.forall_mem_singleton.2 ⟨"a", rfl⟩, List.nodup_singleton _⟩
      (List.forall_mem_singleton.2 ih)

theorem structural_nestedDicts (n : Nat) : Structural (nestedDicts n) := by
  cases n <;> exact .dictionary (.inl rfl)

theorem nestsWithin_nestedDicts (n : Nat) : (nestedDicts n).nestsWithin n = false := by
  induction n with
  | zero => rfl
  | succ n ih => rw [nestedDicts, Value.nestsWithin, Value.entriesNestWithin, ih]; rfl

/-- A dictionary that lies too deep in itself, and one that holds itself, are not bound at all. -/
theorem standard_refuses_deep_and_circular :
    (IsExact (nestedDicts Nesting.usual) ∧ Structural (nestedDicts Nesting.usual) ∧
      AlwaysFails (standard (nestedDicts Nesting.usual))
        (.tooDeep " while encoding a JSON object")) ∧
    AlwaysFails (standard .selfDict)
      (.elementary .invalidValue "Circular reference detected") := by
  refine ⟨⟨isExact_nestedDicts _, structural_nestedDicts _, fun counts => ?_⟩, fun counts => ?_⟩
  · rw [standard_of_isExact (isExact_nestedDicts _) (structural_nestedDicts _), jsonText, Json.text,
      (isExact_nestedDicts _).write_tooDeep (nestsWithin_nestedDicts _)]
    rfl
  · rw [standard_of_isDict rfl, jsonText, Json.text, Json.write]
    rfl

end Conversion
end BoundUpdate
