import BoundUpdate.Value.Dictionary
import Mathlib.Data.List.Basic
import Mathlib.Data.List.Nodup

namespace BoundUpdate
namespace Value

/-!
# Storing entries over entries

Entries whose keys are different texts are the objects of documents and the
options in addresses.  When further entries are stored into them, every key keeps
its place and has the value that was stored last, and new keys follow in their
order.  So the result is told without storing: the old entries, with new values
where there are some, and then the new entries whose keys are not among theirs.
-/

/-! ## Texts as keys -/

theorem quotient?_text (s : String) : (Value.text s).quotient? = Option.none := rfl

/-- A text is no number. -/
theorem sameNumber_text (s : String) (v : Value) : (Value.text s).sameNumber v = false := by
  unfold sameNumber
  rw [quotient?_text]
  cases v.quotient? <;> rfl

/-- A text equals the keys that are this text. -/
theorem sameKey_text_iff {s : String} {key : Value} :
    (Value.text s).sameKey key = true ↔ key.text? = some s := by
  rw [sameKey]
  · rw [text?_text]
    cases key.text? with
    | some t =>
      change (s == t) = true ↔ some t = some s
      rw [beq_iff_eq, Option.some_inj, eq_comm]
    | none =>
      change (Value.text s).sameNumber key = true ↔ Option.none = some s
      simp [sameNumber_text]
  all_goals simp

theorem sameKey_text_text (s t : String) : (Value.text s).sameKey (.text t) = (s == t) := by
  rw [Bool.eq_iff_iff, sameKey_text_iff, text?_text, Option.some_inj, beq_iff_eq, eq_comm]

theorem sameNumber_text_right (v : Value) (s : String) : v.sameNumber (.text s) = false := by
  have hinfinity : (v.infinity?.isSome && v.infinity? == (Value.text s).infinity?) = false := by
    cases v.infinity? <;> rfl
  unfold sameNumber
  split
  · nomatch ‹Value.text s = .decimal _›
  · nomatch ‹(Value.text s).quotient? = some _›
  · exact hinfinity
  · rfl

theorem sameKey_text_right (v : Value) (s : String) :
    v.sameKey (.text s) = (Value.text s).sameKey v := by
  have hleft : (Value.text s).sameKey v = (v.text? == some s) := by
    rw [Bool.eq_iff_iff, sameKey_text_iff, beq_iff_eq]
  rw [hleft, sameKey]
  · rw [text?_text]
    cases v.text? with
    | some t => rfl
    | none => exact sameNumber_text_right v s
  all_goals simp

/-- Keys that are one text are equal. -/
theorem sameKey_of_text? {a b : Value} {s : String} (ha : a.text? = some s)
    (hb : b.text? = some s) : a.sameKey b = true := by
  rw [sameKey]
  · rw [ha, hb]
    exact beq_self_eq_true s
  all_goals
    intros
    subst_vars
    simp [text?] at ha

namespace Entries

/-! ## Entries with different keys -/

/-- No key of entries equals a later one. -/
def Apart (entries : Entries) : Prop :=
  entries.Pairwise fun entry other => entry.1.sameKey other.1 = false

/-- The keys of entries are different texts. -/
structure Named (entries : Entries) : Prop where
  texts : ∀ entry ∈ entries, ∃ name, entry.1 = .text name
  nodup : (entries.map Prod.fst).Nodup

/-- The names that entries are stored under. -/
def names (entries : Entries) : List String := entries.filterMap fun entry => entry.1.text?

variable {base top rest : Entries} {key value : Value} {name : String}

theorem named_nil : Named [] := ⟨(fun _ h => nomatch h), List.nodup_nil⟩

theorem Named.tail {entry : Value × Value} (h : Named (entry :: rest)) : Named rest :=
  ⟨fun e he => h.texts e (List.mem_cons_of_mem _ he), (List.nodup_cons.1 h.nodup).2⟩

theorem Named.head {entry : Value × Value} (h : Named (entry :: rest)) :
    ∃ name, entry.1 = .text name ∧ ∀ other ∈ rest, other.1 ≠ .text name := by
  obtain ⟨name, hname⟩ := h.texts entry List.mem_cons_self
  refine ⟨name, hname, fun other hother heq => ?_⟩
  exact (List.nodup_cons.1 h.nodup).1 (List.mem_map.2 ⟨other, hother, heq.trans hname.symm⟩)

theorem Named.apart (h : Named base) : Apart base := by
  induction base with
  | nil => exact List.Pairwise.nil
  | cons entry rest ih =>
    obtain ⟨name, hname, hrest⟩ := h.head
    refine List.pairwise_cons.2 ⟨fun other hother => ?_, ih h.tail⟩
    obtain ⟨n, hn⟩ := h.tail.texts other hother
    have hne := hrest other hother
    rw [hn] at hne
    rw [hname, hn, sameKey_text_text]
    exact beq_eq_false_iff_ne.2 fun heq => hne (by rw [heq])

theorem Named.keys_eq (h : Named base) : base.map Prod.fst = (names base).map Value.text := by
  induction base with
  | nil => rfl
  | cons entry rest ih =>
    obtain ⟨name, hname⟩ := h.texts entry List.mem_cons_self
    have hnames : names (entry :: rest) = name :: names rest := by
      simp [names, hname]
    rw [hnames, List.map_cons, List.map_cons, hname, ih h.tail]

/-! ## Storing -/

/-- The value that further entries give a key. -/
def newValue? (top : Entries) (key : Value) : Option Value :=
  (List.find? (fun other => key.sameKey other.1) top).map Prod.snd

/-- Entries with the values that further ones give their keys, and then the further entries whose
keys are new. -/
def overlaid (base top : Entries) : Entries :=
  base.map (fun entry => (entry.1, (newValue? top entry.1).getD entry.2)) ++
    top.filter fun other => !base.any fun entry => entry.1.sameKey other.1

theorem merge_cons (base : Entries) (entry : Value × Value) (rest : Entries) :
    merge base (entry :: rest) = merge (insert base entry.1 entry.2) rest := rfl

theorem insert_of_new (h : ∀ entry ∈ base, entry.1.sameKey key = false) :
    insert base key value = base ++ [(key, value)] := by
  induction base with
  | nil => rfl
  | cons entry rest ih =>
    obtain ⟨hentry, hrest⟩ := List.forall_mem_cons.1 h
    rw [insert, if_neg (by simp [hentry]), ih hrest, List.cons_append]

/-- New entries follow the old ones. -/
theorem merge_of_new (htop : Apart top)
    (h : ∀ entry ∈ base, ∀ other ∈ top, entry.1.sameKey other.1 = false) :
    merge base top = base ++ top := by
  induction top generalizing base with
  | nil => rw [merge_nil, List.append_nil]
  | cons first rest ih =>
    obtain ⟨hfirst, hrest⟩ := List.pairwise_cons.1 htop
    rw [merge_cons, insert_of_new fun entry hentry => h entry hentry first List.mem_cons_self,
      ih hrest, List.append_assoc]
    · rfl
    · intro entry hentry other hother
      rcases List.mem_append.1 hentry with hold | hnew
      · exact h entry hold other (List.mem_cons_of_mem _ hother)
      · rw [List.mem_singleton.1 hnew]
        exact hfirst other hother

/-- At most one of several entries gives a text its value, so the first name keeps its place and
takes this value while all other entries are stored behind it. -/
theorem merge_text_cons (htop : Apart top) (name : String) (value : Value) (rest : Entries) :
    merge ((.text name, value) :: rest) top =
      (.text name, (newValue? top (.text name)).getD value) ::
        merge rest (top.filter fun other => !(Value.text name).sameKey other.1) := by
  induction top generalizing value rest with
  | nil => rfl
  | cons first more ih =>
    obtain ⟨hfirst, hmore⟩ := List.pairwise_cons.1 htop
    rw [merge_cons, insert, newValue?, List.find?_cons, List.filter_cons]
    cases hname : (Value.text name).sameKey first.1 with
    | false =>
      rw [if_neg Bool.false_ne_true, if_pos Bool.not_false, merge_cons, ih hmore, newValue?]
    | true =>
      -- no later key is the same text, since it would equal the first one
      have hothers : ∀ other ∈ more, (Value.text name).sameKey other.1 = false := by
        intro other hother
        refine Bool.eq_false_iff.2 fun hsame => ?_
        have heq := sameKey_of_text? (sameKey_text_iff.1 hname) (sameKey_text_iff.1 hsame)
        rw [hfirst other hother] at heq
        cases heq
      have hnone : newValue? more (.text name) = Option.none := by
        rw [newValue?, List.find?_eq_none.2 fun other hother => by simp [hothers other hother]]
        rfl
      rw [if_pos rfl, if_neg (by simp), ih hmore, hnone]
      rfl

/-- What storing further entries over named ones gives. -/
theorem merge_eq_overlaid (hbase : Named base) (htop : Apart top) :
    merge base top = overlaid base top := by
  induction base generalizing top with
  | nil =>
    rw [merge_of_new htop (List.forall_mem_nil _)]
    simp [overlaid]
  | cons entry rest ih =>
    obtain ⟨key, value⟩ := entry
    obtain ⟨name, hname, hrest⟩ := hbase.head
    obtain rfl : key = .text name := hname
    rw [merge_text_cons htop, ih hbase.tail (htop.filter _), overlaid, overlaid, List.map_cons,
      List.cons_append, List.filter_filter]
    congr 2
    · -- the value of another name is not that of the first one
      refine List.map_congr_left fun entry hentry => ?_
      obtain ⟨n, hn⟩ := hbase.tail.texts entry hentry
      have hne := hrest entry hentry
      rw [newValue?, newValue?, List.find?_filter]
      congr 4
      funext other
      cases hother : (Value.text name).sameKey other.1 with
      | false => simp
      | true =>
        have hnot : entry.1.sameKey other.1 = false := by
          refine Bool.eq_false_iff.2 fun hsame => hne ?_
          rw [hn] at hsame ⊢
          have heq := (sameKey_text_iff.1 hother).symm.trans (sameKey_text_iff.1 hsame)
          rw [Option.some.inj heq]
        simp [hnot]
    · refine List.filter_congr fun other _ => ?_
      rw [List.any_cons, Bool.not_or, Bool.and_comm]

/-! ## Looking up -/

@[simp]
theorem get?_nil (name : String) : get? [] name = Option.none := rfl

theorem get?_cons (entry : Value × Value) (rest : Entries) (name : String) :
    get? (entry :: rest) name =
      if entry.1.sameKey (.text name) then some entry.2 else get? rest name := by
  rw [get?, find?, List.find?_cons]
  cases entry.1.sameKey (.text name) <;> rfl

/-- What is stored is an old entry, or has the new value under the new key or an old one. -/
theorem of_mem_insert {entry : Value × Value} (h : entry ∈ insert base key value) :
    entry ∈ base ∨ entry.2 = value ∧ (entry.1 = key ∨ entry.1 ∈ base.map Prod.fst) := by
  induction base with
  | nil =>
    obtain rfl := List.mem_singleton.1 h
    exact .inr ⟨rfl, .inl rfl⟩
  | cons first rest ih =>
    rw [insert] at h
    split at h
    · rcases List.mem_cons.1 h with rfl | hrest
      · exact .inr ⟨rfl, .inr List.mem_cons_self⟩
      · exact .inl (List.mem_cons_of_mem _ hrest)
    · rcases List.mem_cons.1 h with rfl | hrest
      · exact .inl List.mem_cons_self
      · rcases ih hrest with hold | ⟨hvalue, hkey⟩
        · exact .inl (List.mem_cons_of_mem _ hold)
        · exact .inr ⟨hvalue, hkey.imp_right (List.mem_cons_of_mem _)⟩

theorem forall_mem_insert {P : Value → Prop} (h : ∀ entry ∈ base, P entry.2) (hvalue : P value) :
    ∀ entry ∈ insert base key value, P entry.2 := by
  intro entry hentry
  rcases of_mem_insert hentry with hold | ⟨hnew, -⟩
  · exact h entry hold
  · exact hnew ▸ hvalue

theorem texts_insert (h : ∀ entry ∈ base, ∃ n, entry.1 = .text n) (name : String) (value : Value) :
    ∀ entry ∈ insert base (.text name) value, ∃ n, entry.1 = .text n := by
  intro entry hentry
  rcases of_mem_insert hentry with hold | ⟨-, hkey | hkey⟩
  · exact h entry hold
  · exact ⟨name, hkey⟩
  · obtain ⟨other, hother, heq⟩ := List.mem_map.1 hkey
    exact heq ▸ h other hother

theorem Named.insert (h : Named base) (name : String) (value : Value) :
    Named (insert base (.text name) value) := by
  refine ⟨texts_insert h.texts name value, ?_⟩
  induction base with
  | nil => exact List.nodup_singleton _
  | cons entry rest ih =>
    obtain ⟨n, hn, hrest⟩ := h.head
    rw [Entries.insert, hn, sameKey_text_text]
    by_cases hname : n = name
    · rw [if_pos (beq_iff_eq.2 hname), ← hn]
      exact h.nodup
    · rw [if_neg (mt beq_iff_eq.1 hname), List.map_cons]
      refine List.nodup_cons.2 ⟨fun hmem => ?_, ih h.tail⟩
      obtain ⟨other, hother, heq⟩ := List.mem_map.1 hmem
      rcases of_mem_insert hother with hold | ⟨-, hkey | hkey⟩
      · exact hrest other hold heq
      · rw [hkey] at heq
        injection heq with hsame
        exact hname hsame.symm
      · obtain ⟨older, holder, hsame⟩ := List.mem_map.1 hkey
        exact hrest older holder (hsame.trans heq)

theorem newValue?_text (top : Entries) (name : String) :
    newValue? top (.text name) = get? top name := by
  rw [newValue?, get?, find?]
  congr 2
  funext other
  exact (sameKey_text_right other.1 name).symm

/-- The entry of named ones that is found under a name has the name as its key. -/
theorem Named.find?_eq_some (h : Named base) {entry : Value × Value}
    (hfind : List.find? (fun e => e.1.sameKey (.text name)) base = some entry) :
    entry.1 = .text name := by
  obtain ⟨n, hn⟩ := h.texts entry (List.mem_of_find?_eq_some hfind)
  have hsame := List.find?_some hfind
  rw [hn, sameKey_text_text, beq_iff_eq] at hsame
  rw [hn, hsame]

/-- A name is looked up in the further entries first, whatever their keys are. -/
theorem get?_overlaid (h : Named base) (name : String) :
    get? (overlaid base top) name = (get? top name).or (get? base name) := by
  have hfound : ∀ entries : Entries, get? entries name =
      (List.find? (fun e => e.1.sameKey (.text name)) entries).map Prod.snd := fun _ => rfl
  rw [hfound (overlaid base top), overlaid, List.find?_append, List.find?_map, hfound base]
  cases hbase : List.find? (fun e => e.1.sameKey (.text name)) base with
  | some entry =>
    have hsame : List.find? ((fun e : Value × Value => e.1.sameKey (.text name)) ∘
        fun e => (e.1, (newValue? top e.1).getD e.2)) base = some entry := hbase
    rw [hsame, Option.map_some, Option.some_or, Option.map_some, Option.map_some,
      h.find?_eq_some hbase, newValue?_text]
    cases get? top name <;> rfl
  | none =>
    have hnone : List.find? ((fun e : Value × Value => e.1.sameKey (.text name)) ∘
        fun e => (e.1, (newValue? top e.1).getD e.2)) base = Option.none := hbase
    rw [hnone, Option.map_none, Option.none_or, List.find?_filter, Option.map_none, Option.or_none,
      hfound top]
    congr 2
    funext other
    -- a further entry of this name is no entry of the old ones
    cases hother : other.1.sameKey (.text name) with
    | false => simp
    | true =>
      have hnew : (base.any fun entry => entry.1.sameKey other.1) = false := by
        rw [List.any_eq_false]
        intro entry hentry hsame
        obtain ⟨n, hn⟩ := h.texts entry hentry
        rw [sameKey_text_right, sameKey_text_iff] at hother
        rw [hn, sameKey_text_iff, hother] at hsame
        have hnot := List.find?_eq_none.1 hbase entry hentry
        rw [hn, sameKey_text_text, Option.some.inj hsame, beq_self_eq_true] at hnot
        exact hnot rfl
      rw [hnew]
      rfl

/-- A name that is stored over named entries is found with its new value. -/
theorem get?_merge (hbase : Named base) (htop : Apart top) (name : String) :
    get? (merge base top) name = (get? top name).or (get? base name) := by
  rw [merge_eq_overlaid hbase htop, get?_overlaid hbase]

/-- The entries whose keys are no texts are those of the further entries. -/
theorem mem_overlaid_of_no_text (h : Named base) (hkey : key.text? = Option.none) :
    (key, value) ∈ overlaid base top ↔ (key, value) ∈ top := by
  rw [overlaid, List.mem_append, List.mem_filter]
  constructor
  · rintro (hold | ⟨hnew, -⟩)
    · obtain ⟨entry, hentry, heq⟩ := List.mem_map.1 hold
      obtain ⟨n, hn⟩ := h.texts entry hentry
      obtain ⟨rfl, -⟩ := Prod.mk.inj heq
      rw [hn] at hkey
      cases hkey
    · exact hnew
  · intro hmem
    refine .inr ⟨hmem, ?_⟩
    rw [Bool.not_eq_true', List.any_eq_false]
    intro entry hentry hsame
    obtain ⟨n, hn⟩ := h.texts entry hentry
    rw [hn, sameKey_text_iff, hkey] at hsame
    cases hsame

/-- No key is stored twice. -/
theorem apart_overlaid (hbase : Named base) (htop : Apart top) : Apart (overlaid base top) := by
  rw [overlaid, Apart, List.pairwise_append]
  refine ⟨?_, htop.filter _, fun entry hentry other hother => ?_⟩
  · rw [List.pairwise_map]
    exact hbase.apart
  · obtain ⟨old, hold, rfl⟩ := List.mem_map.1 hentry
    have hnew := (List.mem_filter.1 hother).2
    rw [Bool.not_eq_true', List.any_eq_false] at hnew
    exact Bool.eq_false_iff.2 (hnew old hold)

/-- Whether a name is among the keys of entries. -/
theorem any_sameKey_text (h : Named base) (name : String) :
    (base.any fun entry => entry.1.sameKey (.text name)) = decide (name ∈ names base) := by
  have hkeys : (base.any fun entry => entry.1.sameKey (.text name)) =
      (base.map Prod.fst).any fun key => key.sameKey (.text name) := by
    rw [List.any_map]
    rfl
  have htext : (fun key => Value.sameKey key (.text name)) ∘ Value.text = fun n => n == name := by
    funext n
    exact sameKey_text_text n name
  rw [hkeys, h.keys_eq, List.any_map, htext, List.any_beq', List.contains_eq_mem]

/-- The names that are stored: the old ones, and then the new ones that are not among them. -/
theorem keys_merge (hbase : Named base) (htop : Named top) :
    (merge base top).map Prod.fst =
      (names base ++ (names top).filter fun name => decide (name ∉ names base)).map Value.text := by
  have hnew :
      (top.filter fun other => !base.any fun entry => entry.1.sameKey other.1).map Prod.fst =
        ((names top).filter fun name => decide (name ∉ names base)).map Value.text := by
    induction top with
    | nil => rfl
    | cons first rest ih =>
      obtain ⟨name, hname, -⟩ := htop.head
      have hnames : names (first :: rest) = name :: names rest := by
        simp [names, hname]
      rw [List.filter_cons, hnames, List.filter_cons, hname, any_sameKey_text hbase, decide_not]
      split
      · rw [List.map_cons, List.map_cons, hname, ih htop.tail]
      · exact ih htop.tail
  rw [merge_eq_overlaid hbase htop.apart, overlaid, List.map_append, List.map_append, List.map_map,
    hnew, ← hbase.keys_eq]
  rfl

theorem forall_mem_merge {P : Value → Prop} (hbase : ∀ entry ∈ base, P entry.2)
    (htop : ∀ entry ∈ top, P entry.2) : ∀ entry ∈ merge base top, P entry.2 := by
  induction top generalizing base with
  | nil => exact hbase
  | cons first rest ih =>
    obtain ⟨hfirst, hrest⟩ := List.forall_mem_cons.1 htop
    rw [merge_cons]
    exact ih (forall_mem_insert hbase hfirst) hrest

end Entries
end Value
end BoundUpdate
