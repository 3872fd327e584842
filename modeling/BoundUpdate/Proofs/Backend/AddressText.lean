import BoundUpdate.Proofs.Backend.ConnectionText
import BoundUpdate.Proofs.Settings.Addresses

namespace BoundUpdate
namespace ConnectionText

/-!
# Addresses as connection texts

A connection text may be an address instead of settings.  It is one only if it
starts with one of two schemes, in small letters and without a driver; any other
address is read as settings and refused, since no keyword holds a colon.  The
parts of an address and its parameters are settings, too: escapes stand for bytes,
parts that are empty are left out, and a parameter wins over a part.
-/

open Text

/-- A keyword and the bytes of a value. -/
abbrev Told := List Char × List UInt8

/-- The bytes of a text. -/
def bytesOf (s : List Char) : List UInt8 := s.flatMap String.utf8EncodeChar

/-- The bytes of a text with escapes; an escape needs two digits and stands for no zero byte. -/
def unescaped? : List Char → Option (List UInt8)
  | [] => some []
  | '%' :: a :: b :: rest =>
    match hexValue? a, hexValue? b with
    | some x, some y =>
      if 16 * x + y = 0 then none
      else (unescaped? rest).map (UInt8.ofNat (16 * x + y) :: ·)
    | _, _ => none
  | '%' :: _ => none
  | c :: rest => (unescaped? rest).map (String.utf8EncodeChar c ++ ·)

/-- The setting of a part of an address; an empty part has none. -/
def partOf? (keyword : String) (text : List Char) : Option (List Told) :=
  if text = [] then some [] else (unescaped? text).map fun v => [(keyword.toList, v)]

/-! ## Servers -/

/-- Whether a character ends a host. -/
def endsHost (c : Char) : Bool := c == ':' || c == '/' || c == '?' || c == ','

/-- Whether a character ends a port. -/
def endsPort (c : Char) : Bool := c == '/' || c == '?' || c == ','

/-- The host in front of a text, which may stand in brackets, and the text behind it. -/
def host? : List Char → Option (List Char × List Char)
  | '[' :: text =>
    let host := text.takeWhile (· != ']')
    match text.dropWhile (· != ']') with
    | ']' :: rest =>
      if host.isEmpty || !rest.head?.all endsHost then none else some (host, rest)
    | _ => none
  | text => some (text.takeWhile fun c => !endsHost c, text.dropWhile fun c => !endsHost c)

/-- The port in front of a text, if a colon stands there, and the text behind it. -/
def portOf : List Char → List Char × List Char
  | ':' :: text => (text.takeWhile fun c => !endsPort c, text.dropWhile fun c => !endsPort c)
  | text => ([], text)

/-- The hosts and ports in front of a text, with commas between them, and the text behind them;
there are no more than `fuel` of them. -/
def servers? : (fuel : Nat) → List Char → Option (List (List Char × List Char) × List Char)
  | 0, _ => none
  | fuel + 1, text =>
    (host? text).bind fun (host, behind) =>
      match portOf behind with
      | (port, ',' :: rest) =>
        (servers? fuel rest).map fun (servers, tail) => ((host, port) :: servers, tail)
      | (port, tail) => some ([(host, port)], tail)

/-! ## Parameters -/

/-- A parameter of an address: a name and a value. -/
def parameter? (known : Keywords) (text : List Char) : Option Told :=
  match (splitOn '=' text).map unescaped? with
  | [some name, some value] =>
    let name := Utf8.decodeTolerant name
    if name = "ssl".toList ∧ value = bytesOf "true".toList then
      some ("sslmode".toList, bytesOf "require".toList)
    else if known.known name then some (name, value) else none
  | _ => none

/-- The texts of parameters; behind the last one there may be a mark. -/
def parameterTexts (query : List Char) : List (List Char) :=
  let texts := splitOn '&' query
  if texts.getLast? = some [] then texts.dropLast else texts

/-! ## Addresses -/

/-- The user and the password in front of a text, if an at sign stands behind them, and the text
behind them. -/
def credentialsOf (text : List Char) : List Char × List Char × List Char :=
  let goesOn := fun c => c != '@' && c != '/'
  match text.dropWhile goesOn with
  | '@' :: behind =>
    let (user, password) := (cut? ':' (text.takeWhile goesOn)).getD (text.takeWhile goesOn, [])
    (user, password, behind)
  | _ => ([], [], text)

/-- The path and the query behind the servers of an address. -/
def pathOf (tail : List Char) : List Char × List Char :=
  (cut? '?' tail).getD (tail, [])

/-- The settings of an address without its scheme. -/
def addressSettings? (known : Keywords) (text : List Char) : Option (List Told) := do
  let (user, password, behind) := credentialsOf text
  let (servers, tail) ← servers? (behind.length + 1) behind
  let (path, query) := pathOf tail
  let user ← partOf? "user" user
  let password ← partOf? "password" password
  let host ← partOf? "host" (join ',' (servers.map Prod.fst))
  let port ← partOf? "port" (join ',' (servers.map Prod.snd))
  let database ← partOf? "dbname" (path.drop 1)
  let parameters ← (parameterTexts query).mapM (parameter? known)
  return user ++ password ++ host ++ port ++ database ++ parameters

/-- The schemes of addresses. -/
def schemes : List (List Char) := ["postgresql", "postgres"].map String.toList

/-- The text behind one of the schemes. -/
def address? (text : List Char) : Option (List Char) :=
  schemes.findSome? fun scheme => text.dropPrefix? (scheme ++ Dsn.mark)

/-- A setting with the bytes of its value. -/
def toldOf (s : Setting) : Told := (s.1, bytesOf s.2)

/-- What a connection text tells: the settings of an address, or else the settings that stand in
it. -/
def told? (known : Keywords) (text : List Char) : Option (List Told) :=
  match address? text with
  | some rest => addressSettings? known rest
  | none => (settings? known text).map (·.map toldOf)

/-! ## Other schemes -/

section Refused

open Progress

variable {known : Keywords} {m next : Progress} {k text rest x : List Char} {c : Char}
  {given : List Setting}

theorem readFrom_cons (h : m.step known c = some (next, given)) (text : List Char) :
    readFrom known m (c :: text) = (readFrom known next text).map (given ++ ·) := by
  have hone : m.run known [c] = some (next, given ++ []) := run_cons h []
  rw [← List.singleton_append, readFrom_append hone, List.append_nil]

theorem readFrom_cons_eq_none (h : m.step known c = some (next, given))
    (hrest : readFrom known next text = none) : readFrom known m (c :: text) = none := by
  rw [readFrom_cons h, hrest]
  rfl

theorem readFrom_of_refused (h : m.step known c = none) (text : List Char) :
    readFrom known m (c :: text) = none := by
  rw [readFrom, run, h]
  rfl

/-- White space ends a keyword. -/
theorem step_of_isSpace (hequals : c ≠ '=') (hspace : isSpace c = true) :
    (Progress.keyword k).step known c = some (.named k, []) ∧
      (Progress.named k).step known c = some (.named k, []) := by
  rw [step, if_neg hequals, if_pos hspace, step, if_neg hequals, if_pos hspace]
  exact ⟨rfl, rfl⟩

/-- Another character goes on the keyword, and none may stand behind it. -/
theorem step_of_not_isSpace (hequals : c ≠ '=') (hspace : isSpace c = false) :
    (Progress.keyword k).step known c = some (.keyword (k ++ [c]), []) ∧
      (Progress.named k).step known c = none := by
  rw [step, if_neg hequals, hspace, step, if_neg hequals, hspace]
  exact ⟨rfl, rfl⟩

/-- A keyword that holds a character that no keyword holds is refused when it ends. -/
theorem readFrom_of_badKeyword (h : ∃ c ∈ k, isKeywordChar c = false) (text : List Char) :
    readFrom known (.keyword k) text = none ∧ readFrom known (.named k) text = none := by
  induction text generalizing k with
  | nil => exact ⟨rfl, rfl⟩
  | cons d text ih =>
    obtain ⟨c, hc, hbad⟩ := h
    by_cases hequals : d = '='
    · have hassign : Progress.assign known k = none := by
        refine if_neg fun hknown => ?_
        rw [(known.known_word k hknown).2 c hc] at hbad
        cases hbad
      exact ⟨readFrom_of_refused (by rw [step, if_pos hequals, hassign]) text,
        readFrom_of_refused (by rw [step, if_pos hequals, hassign]) text⟩
    · cases hspace : isSpace d with
      | true =>
        have hnamed := (ih ⟨c, hc, hbad⟩).2
        exact ⟨readFrom_cons_eq_none (step_of_isSpace hequals hspace).1 hnamed,
          readFrom_cons_eq_none (step_of_isSpace hequals hspace).2 hnamed⟩
      | false =>
        have hlonger := (ih ⟨c, List.mem_append_left [d] hc, hbad⟩).1
        exact ⟨readFrom_cons_eq_none (step_of_not_isSpace hequals hspace).1 hlonger,
          readFrom_of_refused (step_of_not_isSpace hequals hspace).2 text⟩

/-- A character of a scheme goes on a keyword. -/
theorem not_isSpace_of_isSchemeChar (h : Address.isSchemeChar c = true) :
    c ≠ '=' ∧ isSpace c = false := by
  have hall : ∀ n < 128, Address.isSchemeChar (Char.ofNat n) = true →
      Char.ofNat n ≠ '=' ∧ isSpace (Char.ofNat n) = false := by decide +kernel
  exact forall_ascii (P := fun c => Address.isSchemeChar c = true → c ≠ '=' ∧ isSpace c = false)
    hall (AddressParts.ascii_of_isSchemeChar h) h

/-- What is left of a text when characters are dropped that mean nothing in an address. -/
def visible (text : List Char) : List Char := text.filter fun c => !Address.isIgnored c

theorem isSpace_of_isIgnored (h : Address.isIgnored c = true) : c ≠ '=' ∧ isSpace c = true := by
  simp only [Address.isIgnored, Bool.or_eq_true, beq_iff_eq] at h
  rcases h with (rfl | rfl) | rfl <;> decide

theorem isLeading_of_isIgnored (h : Address.isIgnored c = true) : Address.isLeading c = true := by
  simp only [Address.isIgnored, Bool.or_eq_true, beq_iff_eq] at h
  rcases h with (rfl | rfl) | rfl <;> decide

theorem not_isKeywordChar_of_isLeading (h : Address.isLeading c = true) :
    isKeywordChar c = false := by
  have hall : ∀ n < 128, Address.isLeading (Char.ofNat n) = true →
      isKeywordChar (Char.ofNat n) = false := by decide +kernel
  have hascii : c.toNat < 128 := by
    have hle : c.toNat ≤ 0x20 := by simpa [Address.isLeading] using h
    omega
  exact forall_ascii (P := fun c => Address.isLeading c = true → isKeywordChar c = false)
    hall hascii h

/-- A scheme with its colon is refused where a keyword stands, also if it is broken by characters
that mean nothing in an address. -/
theorem readFrom_of_scheme (hx : ∀ c ∈ x, Address.isSchemeChar c = true)
    (h : visible text = x ++ ':' :: rest) :
    readFrom known (.keyword k) text = none ∧ readFrom known (.named k) text = none := by
  induction text generalizing k x with
  | nil => cases x <;> cases h
  | cons c text ih =>
    by_cases hignored : Address.isIgnored c = true
    · obtain ⟨hequals, hspace⟩ := isSpace_of_isIgnored hignored
      have hrest : visible text = x ++ ':' :: rest := by
        rw [← h, visible, visible, List.filter_cons_of_neg (by simp [hignored])]
      have hnamed := (ih (k := k) hx hrest).2
      exact ⟨readFrom_cons_eq_none (step_of_isSpace hequals hspace).1 hnamed,
        readFrom_cons_eq_none (step_of_isSpace hequals hspace).2 hnamed⟩
    · rw [visible, List.filter_cons_of_pos (by simp [hignored])] at h
      have hgoes : c ≠ '=' ∧ isSpace c = false := by
        cases x with
        | nil =>
          obtain rfl : c = ':' := (List.cons.inj h).1
          decide
        | cons d x =>
          obtain rfl : c = d := (List.cons.inj h).1
          exact not_isSpace_of_isSchemeChar (hx c List.mem_cons_self)
      obtain ⟨hequals, hspace⟩ := hgoes
      refine ⟨readFrom_cons_eq_none (step_of_not_isSpace hequals hspace).1 ?_,
        readFrom_of_refused (step_of_not_isSpace hequals hspace).2 text⟩
      cases x with
      | nil =>
        obtain rfl : c = ':' := (List.cons.inj h).1
        exact (readFrom_of_badKeyword ⟨':', by simp, rfl⟩ text).1
      | cons d x => exact (ih (List.forall_mem_cons.1 hx).2 (List.cons.inj h).2).1

/-- A text that is an address for a reader of addresses is refused as settings. -/
theorem settings?_of_scheme (hne : x ≠ []) (hx : ∀ c ∈ x, Address.isSchemeChar c = true)
    (h : visible (text.dropWhile Address.isLeading) = x ++ ':' :: rest) :
    settings? known text = none := by
  induction text with
  | nil => cases x <;> cases h
  | cons c text ih =>
    by_cases hleading : Address.isLeading c = true
    · rw [List.dropWhile_cons_of_pos hleading] at h
      have hequals : c ≠ '=' := by
        rintro rfl
        cases hleading
      by_cases hspace : isSpace c = true
      · have hstep : Progress.between.step known c = some (.between, []) := by
          rw [step, if_pos hspace]
        exact readFrom_cons_eq_none hstep (ih h)
      · have hstep : Progress.between.step known c = some (.keyword [c], []) := by
          rw [step, if_neg hspace, if_neg hequals]
        have hbad : isKeywordChar c = false := not_isKeywordChar_of_isLeading hleading
        exact readFrom_cons_eq_none hstep
          (readFrom_of_badKeyword ⟨c, List.mem_cons_self, hbad⟩ text).1
    · rw [List.dropWhile_cons_of_neg hleading] at h
      have hshown : Address.isIgnored c = false := by
        rw [Bool.eq_false_iff]
        exact fun hignored => hleading (isLeading_of_isIgnored hignored)
      obtain ⟨d, x, rfl⟩ := List.exists_cons_of_ne_nil hne
      rw [visible, List.filter_cons_of_pos (by simp [hshown])] at h
      obtain ⟨rfl, hrest⟩ := List.cons.inj h
      obtain ⟨hc, hx⟩ := List.forall_mem_cons.1 hx
      obtain ⟨hequals, hspace⟩ := not_isSpace_of_isSchemeChar hc
      have hstep : Progress.between.step known c = some (.keyword [c], []) := by
        rw [step, hspace, if_neg Bool.false_ne_true, if_neg hequals]
      exact readFrom_cons_eq_none hstep (readFrom_of_scheme hx hrest).1

variable {a : Address}

theorem scheme_of_read (h : Address.read text = .ok a) :
    a.scheme = (Address.cutScheme (visible (text.dropWhile Address.isLeading))).1 := by
  rw [Address.read] at h
  dsimp only at h
  obtain ⟨_, _, h⟩ := except_bind_ok h
  obtain ⟨_, _, h⟩ := except_bind_ok h
  cases h
  rfl

theorem exists_of_cutScheme {s : List Char} (h : (Address.cutScheme s).1 ≠ []) :
    ∃ x rest, x ≠ [] ∧ (∀ c ∈ x, Address.isSchemeChar c = true) ∧ s = x ++ ':' :: rest := by
  rw [Address.cutScheme] at h
  split at h
  next c scheme rest hcut =>
    split at h
    case isTrue hchars =>
      obtain ⟨hletter, hscheme⟩ := Bool.and_eq_true_iff.1 hchars
      refine ⟨c :: scheme, rest, List.cons_ne_nil _ _, ?_, (cut?_eq_some hcut).1⟩
      refine List.forall_mem_cons.2 ⟨?_, List.all_eq_true.1 hscheme⟩
      rw [Address.isSchemeChar, hletter]
      rfl
    case isFalse => exact absurd rfl h
  next => exact absurd rfl h

theorem address?_eq_none (h : ∀ scheme ∈ schemes, ¬ scheme ++ Dsn.mark <+: text) :
    address? text = none := by
  refine List.findSome?_eq_none_iff.2 fun scheme hmem => ?_
  rw [Option.eq_none_iff_forall_not_mem]
  intro rest hrest
  obtain ⟨front, htext, hfront⟩ := List.dropPrefix?_eq_some_iff.1 hrest
  exact h scheme hmem ⟨rest, by rw [htext, beq_iff_eq.1 hfront]⟩

/-- A text that is read as an address with a scheme tells nothing if it does not start with one of
the schemes as they are. -/
theorem told?_of_other_scheme (hread : Address.read text = .ok a) (hne : a.scheme ≠ [])
    (h : address? text = none) : told? known text = none := by
  rw [scheme_of_read hread] at hne
  obtain ⟨x, rest, hx, hchars, htext⟩ := exists_of_cutScheme hne
  rw [told?, h]
  dsimp only
  rw [settings?_of_scheme hx hchars htext]
  rfl

end Refused

/-! ## Lists of parameters -/

/-- A list is mapped if each of its elements is. -/
theorem mapM_eq_some_iff {α β : Type} {f : α → Option β} {P : α → Prop} {g : α → β}
    (hf : ∀ x y, f x = some y ↔ P x ∧ y = g x) {l : List α} {ys : List β} :
    l.mapM f = some ys ↔ (∀ x ∈ l, P x) ∧ ys = l.map g := by
  induction l generalizing ys with
  | nil => simp [eq_comm]
  | cons x l ih =>
    rw [List.mapM_cons, List.forall_mem_cons, List.map_cons]
    constructor
    · intro h
      obtain ⟨y, hy, h⟩ := Option.bind_eq_some_iff.1 h
      obtain ⟨more, hmore, h⟩ := Option.bind_eq_some_iff.1 h
      cases h
      obtain ⟨hx, rfl⟩ := (hf x y).1 hy
      obtain ⟨hl, rfl⟩ := ih.1 hmore
      exact ⟨⟨hx, hl⟩, rfl⟩
    · rintro ⟨⟨hx, hl⟩, rfl⟩
      rw [(hf x (g x)).2 ⟨hx, rfl⟩, ih.2 ⟨hl, rfl⟩]
      rfl

/-! ## Escapes -/

section Escapes

variable {c : Char} {s : List Char}

theorem decodeTolerant_bytesOf (s : List Char) : Utf8.decodeTolerant (bytesOf s) = s :=
  Utf8.decodeTolerant_encode s

theorem bytesOf_inj {s t : List Char} : bytesOf s = bytesOf t ↔ s = t := by
  refine ⟨fun h => ?_, congrArg bytesOf⟩
  have hback := congrArg Utf8.decodeTolerant h
  rwa [decodeTolerant_bytesOf, decodeTolerant_bytesOf] at hback

theorem bytesOf_cons (c : Char) (s : List Char) :
    bytesOf (c :: s) = String.utf8EncodeChar c ++ bytesOf s := List.flatMap_cons

theorem unescaped?_cons (h : c ≠ '%') (s : List Char) :
    unescaped? (c :: s) = (unescaped? s).map (String.utf8EncodeChar c ++ ·) := by
  rw [unescaped?]
  · rintro a b rest rfl
    exact absurd rfl h
  · exact h

theorem unescaped?_percentByte {b : UInt8} (h : b ≠ 0) (s : List Char) :
    unescaped? (percentByte b ++ s) = (unescaped? s).map (b :: ·) := by
  have hbyte : b.toNat < 256 := b.toNat_lt
  have hwhole : 16 * (b.toNat / 16) + b.toNat % 16 = b.toNat := by omega
  have hzero : b.toNat ≠ 0 := fun hzero => h (UInt8.toNat_inj.1 hzero)
  change unescaped? ('%' :: upperHexDigit (b.toNat / 16) :: upperHexDigit (b.toNat % 16) :: s) = _
  rw [unescaped?, hexValue?_upperHexDigit (by omega), hexValue?_upperHexDigit (by omega)]
  dsimp only
  rw [hwhole, if_neg hzero, UInt8.ofNat_toNat]

theorem unescaped?_flatMap_percentByte {bytes : List UInt8} (h : ∀ b ∈ bytes, b ≠ 0)
    (s : List Char) :
    unescaped? (bytes.flatMap percentByte ++ s) = (unescaped? s).map (bytes ++ ·) := by
  induction bytes with
  | nil => exact Option.map_id'.symm
  | cons b bytes ih =>
    obtain ⟨hb, hbytes⟩ := List.forall_mem_cons.1 h
    rw [List.flatMap_cons, List.append_assoc, unescaped?_percentByte hb, ih hbytes, Option.map_map]
    rfl

/-- Only the character zero has a zero byte. -/
theorem ne_zero_of_mem_encode (h : c ≠ '\x00') : ∀ b ∈ String.utf8EncodeChar c, b ≠ 0 := by
  have hcode : c.val.toNat ≠ 0 := fun hzero => h (Char.toNat_inj.1 hzero)
  have hvalid : c.val.toNat < 0xD800 ∨ 0xDFFF < c.val.toNat ∧ c.val.toNat < 0x110000 := c.valid
  have hbyte : ∀ n : Nat, n < 256 → n ≠ 0 → UInt8.ofNat n ≠ 0 := by
    intro n hn hne heq
    have hvalue := congrArg UInt8.toNat heq
    rw [Utf8.toNat_byte hn] at hvalue
    exact hne hvalue
  rw [String.utf8EncodeChar]
  generalize c.val.toNat = n at hcode hvalid
  split_ifs
  all_goals
    simp only [List.forall_mem_cons, List.not_mem_nil, false_implies, implies_true, and_true]
    repeat' apply And.intro
  all_goals exact hbyte _ (by omega) (by omega)

/-- An escaped character stands for its bytes, unless it is the character zero. -/
theorem unescaped?_percentChar (h : c ≠ '\x00') (s : List Char) :
    unescaped? (percentChar c ++ s) = (unescaped? s).map (String.utf8EncodeChar c ++ ·) := by
  rw [percentChar]
  split
  · next hplain => exact unescaped?_cons (lt_of_isUnreserved hplain).2.2 s
  · exact unescaped?_flatMap_percentByte (ne_zero_of_mem_encode h) s

/-- An escaped text stands for its bytes, unless it holds the character zero. -/
theorem unescaped?_percentEncode (s : String) :
    unescaped? (percentEncode s) =
      if '\x00' ∈ s.toList then none else some (bytesOf s.toList) := by
  rw [percentEncode]
  induction s.toList with
  | nil => rfl
  | cons c s ih =>
    rw [List.flatMap_cons]
    by_cases hzero : c = '\x00'
    · subst hzero
      rw [if_pos List.mem_cons_self]
      rfl
    · rw [unescaped?_percentChar hzero, ih, bytesOf_cons]
      by_cases hmem : '\x00' ∈ s
      · rw [if_pos hmem, if_pos (List.mem_cons_of_mem c hmem)]
        rfl
      · rw [if_neg hmem, if_neg (List.not_mem_cons_of_ne_of_not_mem (Ne.symm hzero) hmem)]
        rfl

/-- Unreserved characters stand for themselves. -/
theorem unescaped?_of_isUnreserved (h : ∀ c ∈ s, isUnreserved c = true) :
    unescaped? s = some (bytesOf s) := by
  induction s with
  | nil => rfl
  | cons c s ih =>
    obtain ⟨hc, hs⟩ := List.forall_mem_cons.1 h
    rw [unescaped?_cons (lt_of_isUnreserved hc).2.2, ih hs, bytesOf_cons]
    rfl

end Escapes

end ConnectionText
end BoundUpdate
