import Mathlib.Data.List.Basic

/-!
# Machinery/Regex — a backtracking matcher for ICU patterns

A `Pattern` is matched at a `Pos`: the character just before it (none at the start of the text) and
the characters still to read.  `Pattern.matchAt` lists every position a match can end at, so
backtracking over a greedy repetition is membership in that list, and a whole-string match
(`Pattern.isMatch`, what `NSPredicate` calls `MATCHES`) is reaching the end of the text.

The `mem_matchAt_*` lemmas turn each construct into a statement about how the text splits.
-/

namespace Regex

/-- A position in the text: the character before it, and the text after it. -/
structure Pos where
  before : Option Char
  rest : List Char

/-- The characters `a..b` of a bracket expression. -/
def range (a b c : Char) : Bool := decide (a.toNat ≤ c.toNat) && decide (c.toNat ≤ b.toNat)

/-- ICU's line terminators: LF, VT, FF, CR, NEL, LS and PS. -/
def isLineTerminator (c : Char) : Bool :=
  [0x0A, 0x0B, 0x0C, 0x0D, 0x85, 0x2028, 0x2029].contains c.toNat

/-- `.` without the DOTALL flag. -/
def dot (c : Char) : Bool := !isLineTerminator c

/-- The class `\d` of Unicode decimal digits.  Which characters beyond ASCII belong to it depends on
the Unicode version of the matcher; inside ASCII it is `0`–`9`, and no line terminator is in it. -/
class DecimalDigits where
  isDecimalDigit : Char → Bool
  ascii : ∀ c : Char, c.toNat < 128 → isDecimalDigit c = range '0' '9' c
  lineTerminator : ∀ c : Char, isLineTerminator c = true → isDecimalDigit c = false

/-- The smallest such class: ASCII digits only. -/
@[reducible] def asciiDigits : DecimalDigits where
  isDecimalDigit := range '0' '9'
  ascii _ _ := rfl
  lineTerminator c hc := by
    simp only [isLineTerminator, List.contains_eq_mem, List.mem_cons, List.not_mem_nil, or_false,
      decide_eq_true_eq] at hc
    simp only [range, Bool.and_eq_false_iff, decide_eq_false_iff_not]
    change ¬ 48 ≤ c.toNat ∨ ¬ c.toNat ≤ 57
    omega

/-- A pattern: a character class, a class repeated at least `n` times, concatenation, lookahead and
the two anchors. -/
inductive Pattern where
  | cls (p : Char → Bool)
  | atLeast (n : ℕ) (p : Char → Bool)
  | seq (r₁ r₂ : Pattern)
  | ahead (r : Pattern)
  | start
  | finish

/-- Where `p{n,}` can stop. -/
def repeatClass (p : Char → Bool) : ℕ → Option Char → List Char → List Pos
  | 0, b, [] => [⟨b, []⟩]
  | 0, b, c :: t => ⟨b, c :: t⟩ :: if p c then repeatClass p 0 (some c) t else []
  | _ + 1, _, [] => []
  | n + 1, _, c :: t => if p c then repeatClass p n (some c) t else []

/-- `$` outside MULTILINE mode: the end of the text, or just before a line terminator that ends it
(CR LF counting as one). -/
def atFinish : Pos → Bool
  | ⟨_, []⟩ => true
  | ⟨b, [c]⟩ => isLineTerminator c && !(c == '\n' && b == some '\r')
  | ⟨_, ['\r', '\n']⟩ => true
  | _ => false

/-- Every position a match that starts at `q` can end at. -/
def Pattern.matchAt : Pattern → Pos → List Pos
  | .cls _, ⟨_, []⟩ => []
  | .cls p, ⟨_, c :: t⟩ => if p c then [⟨some c, t⟩] else []
  | .atLeast n p, ⟨b, s⟩ => repeatClass p n b s
  | .seq r₁ r₂, q => (r₁.matchAt q).flatMap r₂.matchAt
  | .ahead r, q => if (r.matchAt q).isEmpty then [] else [q]
  | .start, q => if q.before.isNone then [q] else []
  | .finish, q => if atFinish q then [q] else []

/-- **Whole-string match**: some match from the start of `s` ends at its end. -/
def Pattern.isMatch (r : Pattern) (s : List Char) : Bool :=
  (r.matchAt ⟨none, s⟩).any (·.rest.isEmpty)

/-- A sequence of patterns. -/
def Pattern.concat : Pattern → List Pattern → Pattern
  | r, [] => r
  | r, r' :: rs => .seq r (concat r' rs)

/-! ## What each construct says about the text -/

variable {p : Char → Bool} {q q' : Pos} {r r₁ r₂ : Pattern} {n : ℕ}

theorem mem_matchAt_cls : q' ∈ (Pattern.cls p).matchAt q ↔
    ∃ c, p c = true ∧ q.rest = c :: q'.rest ∧ q'.before = some c := by
  obtain ⟨b, s⟩ := q
  obtain ⟨b', s'⟩ := q'
  cases s with
  | nil => simp [Pattern.matchAt]
  | cons c t =>
    simp only [Pattern.matchAt, List.mem_ite_nil_right, List.mem_singleton, Pos.mk.injEq,
      List.cons.injEq]
    constructor
    · rintro ⟨hc, rfl, rfl⟩
      exact ⟨c, hc, ⟨rfl, rfl⟩, rfl⟩
    · rintro ⟨_, hc, ⟨rfl, rfl⟩, rfl⟩
      exact ⟨hc, rfl, rfl⟩

/-- The last character read, across one more character in front. -/
theorem getLast?_cons_or (c : Char) (a : List Char) (b : Option Char) :
    (c :: a).getLast?.or b = a.getLast?.or (some c) := by
  rw [List.getLast?_cons]
  cases a.getLast? <;> rfl

/-- One more repetition of a class in front of a match of the rest. -/
theorem repeatClass_cons {P : List Char → Prop} {b : Option Char} {c : Char} {t : List Char} :
    (p c = true ∧ ∃ a, t = a ++ q'.rest ∧ P (c :: a) ∧ (∀ d ∈ a, p d = true) ∧
        q'.before = a.getLast?.or (some c)) ↔
      ∃ a, a ≠ [] ∧ c :: t = a ++ q'.rest ∧ P a ∧ (∀ d ∈ a, p d = true) ∧
        q'.before = a.getLast?.or b := by
  constructor
  · rintro ⟨hc, a, rfl, hP, ha, hb⟩
    exact ⟨c :: a, by simp, rfl, hP, by simpa [hc] using ha, by rw [hb, getLast?_cons_or]⟩
  · rintro ⟨a, hne, ht, hP, ha, hb⟩
    obtain ⟨d, a, rfl⟩ := List.exists_cons_of_ne_nil hne
    obtain ⟨rfl, rfl⟩ := List.cons.inj ht
    simp only [List.mem_cons, forall_eq_or_imp] at ha
    exact ⟨ha.1, a, rfl, hP, ha.2, by rw [hb, getLast?_cons_or]⟩

/-- **A repeated class reads any run of its characters that is long enough.** -/
theorem mem_repeatClass : ∀ (n : ℕ) (b : Option Char) (s : List Char),
    q' ∈ repeatClass p n b s ↔ ∃ a, s = a ++ q'.rest ∧ n ≤ a.length ∧ (∀ c ∈ a, p c = true) ∧
      q'.before = a.getLast?.or b
  | 0, b, [] => by
    obtain ⟨b', s'⟩ := q'
    simp [repeatClass, and_comm]
  | 0, b, c :: t => by
    have ih := mem_repeatClass 0 (some c) t
    simp only [Nat.zero_le, true_and] at ih
    have hcons := @repeatClass_cons p q' (fun _ => True) b c t
    simp only [true_and] at hcons
    simp only [repeatClass, List.mem_cons, List.mem_ite_nil_right, ih, hcons, Nat.zero_le, true_and]
    constructor
    · rintro (rfl | ⟨a, -, h⟩)
      · exact ⟨[], rfl, by simp, rfl⟩
      · exact ⟨a, h⟩
    · rintro ⟨a, ht, ha, hb⟩
      by_cases hne : a = []
      · subst hne
        obtain ⟨b', s'⟩ := q'
        exact Or.inl (by simp_all)
      · exact Or.inr ⟨a, hne, ht, ha, hb⟩
  | n + 1, b, [] => by
    simp only [repeatClass, List.not_mem_nil, false_iff, not_exists]
    rintro a ⟨h, hn, -⟩
    obtain ⟨rfl, -⟩ := List.append_eq_nil_iff.1 h.symm
    simp at hn
  | n + 1, b, c :: t => by
    have hcons := @repeatClass_cons p q' (fun a => n + 1 ≤ a.length) b c t
    simp only [List.length_cons, Nat.add_le_add_iff_right] at hcons
    simp only [repeatClass, List.mem_ite_nil_right, mem_repeatClass n (some c) t, hcons]
    refine exists_congr fun a => and_iff_right_of_imp ?_
    rintro ⟨-, hn, -⟩ rfl
    simp at hn

theorem mem_matchAt_atLeast : q' ∈ (Pattern.atLeast n p).matchAt q ↔
    ∃ a, q.rest = a ++ q'.rest ∧ n ≤ a.length ∧ (∀ c ∈ a, p c = true) ∧
      q'.before = a.getLast?.or q.before := mem_repeatClass n q.before q.rest

theorem mem_matchAt_seq : q' ∈ (Pattern.seq r₁ r₂).matchAt q ↔
    ∃ m ∈ r₁.matchAt q, q' ∈ r₂.matchAt m := List.mem_flatMap

theorem mem_matchAt_ahead : q' ∈ (Pattern.ahead r).matchAt q ↔
    q' = q ∧ ∃ m, m ∈ r.matchAt q := by
  rw [Pattern.matchAt]
  cases r.matchAt q with
  | nil => simp
  | cons m ms => simp

theorem mem_matchAt_start : q' ∈ Pattern.start.matchAt q ↔ q' = q ∧ q.before = none := by
  simp [Pattern.matchAt, and_comm]

theorem mem_matchAt_finish : q' ∈ Pattern.finish.matchAt q ↔ q' = q ∧ atFinish q = true := by
  simp [Pattern.matchAt, and_comm]

/-- `$` holds at the very end. -/
theorem atFinish_of_end (h : q.rest = []) : atFinish q = true := by
  obtain ⟨b, s⟩ := q
  cases h
  rfl

theorem isMatch_iff {s : List Char} :
    r.isMatch s = true ↔ ∃ q ∈ r.matchAt ⟨none, s⟩, q.rest = [] := by
  simp [Pattern.isMatch]

end Regex
