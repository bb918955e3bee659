import InstaGLAM.Helpers.StringExtension
import InstaGLAM.Machinery.Scan

/-!
# Helpers/Validation — the two checks as rules

    s  =  before '@' s ++ '@' :: (beforeLast '.' domain ++ '.' :: afterLast '.' domain)

What a matcher finds by backtracking, said without one.  The domain of an email and its top-level
part overlap in the letters and the domain may contain dots, but the top-level part may not, so the
dot that a match settles on is the last one (`isValidEmail_iff_scan`).  The two lookaheads of the
password pattern search past every character the repetition after them lets in, and the repetition
leaves nothing for `$` to skip (`isValidPassword_iff`).
-/

namespace InstaGLAM

open Regex Scan

variable {s l d t : SwiftString}

/-! ## The email, in one scan -/

/-- A split of `s` at an `@` and at a dot, with the characters the email pattern asks for. -/
structure EmailSplit (s l d t : SwiftString) : Prop where
  eq : s = l ++ '@' :: (d ++ '.' :: t)
  localPart : l ≠ [] ∧ ∀ c ∈ l, emailLocalChar c = true
  domain : d ≠ [] ∧ ∀ c ∈ d, emailDomainChar c = true
  topLevel : 2 ≤ t.length ∧ ∀ c ∈ t, asciiLetter c = true

/-- **The scan**: one `@`, and behind it a last dot, with the right characters on either side. -/
structure ScansAsEmail (s : SwiftString) : Prop where
  oneAt : s.count '@' = 1
  localPart : before '@' s ≠ [] ∧ ∀ c ∈ before '@' s, emailLocalChar c = true
  dot : '.' ∈ after '@' s
  topLevel : 2 ≤ (afterLast '.' (after '@' s)).length ∧
    ∀ c ∈ afterLast '.' (after '@' s), asciiLetter c = true
  domain : beforeLast '.' (after '@' s) ≠ [] ∧
    ∀ c ∈ beforeLast '.' (after '@' s), emailDomainChar c = true

theorem not_mem_of_class {p : Char → Bool} {c : Char} (h : ∀ c ∈ s, p c = true)
    (hc : p c = false) : c ∉ s := fun hmem => by
  rw [h c hmem] at hc
  exact Bool.noConfusion hc

theorem isValidEmail_iff_split : isValidEmail s = true ↔ ∃ l d t, EmailSplit s l d t := by
  rw [isValidEmail_iff]
  refine exists_congr fun l => exists_congr fun d => exists_congr fun t => ?_
  constructor
  · rintro ⟨heq, hl, hlc, hd, hdc, ht, htc⟩
    exact ⟨heq, ⟨hl, hlc⟩, ⟨hd, hdc⟩, ht, htc⟩
  · rintro ⟨heq, ⟨hl, hlc⟩, ⟨hd, hdc⟩, ht, htc⟩
    exact ⟨heq, hl, hlc, hd, hdc, ht, htc⟩

namespace EmailSplit

theorem before_eq (h : EmailSplit s l d t) : before '@' s = l := by
  rw [h.eq, before_append (not_mem_of_class h.localPart.2 (by decide))]

theorem after_eq (h : EmailSplit s l d t) : after '@' s = d ++ '.' :: t := by
  rw [h.eq, after_append (not_mem_of_class h.localPart.2 (by decide))]

theorem beforeLast_eq (h : EmailSplit s l d t) : beforeLast '.' (after '@' s) = d := by
  rw [h.after_eq, beforeLast_append (not_mem_of_class h.topLevel.2 (by decide))]

theorem afterLast_eq (h : EmailSplit s l d t) : afterLast '.' (after '@' s) = t := by
  rw [h.after_eq, afterLast_append (not_mem_of_class h.topLevel.2 (by decide))]

/-- The `@` of a split is the only one: no class has it. -/
theorem count_at (h : EmailSplit s l d t) : s.count '@' = 1 := by
  have hl : l.count '@' = 0 := List.count_eq_zero.2 (not_mem_of_class h.localPart.2 (by decide))
  have hd : d.count '@' = 0 := List.count_eq_zero.2 (not_mem_of_class h.domain.2 (by decide))
  have ht : t.count '@' = 0 := List.count_eq_zero.2 (not_mem_of_class h.topLevel.2 (by decide))
  rw [h.eq, List.count_append, List.count_cons_self, List.count_append,
    List.count_cons_of_ne (by decide), hl, hd, ht]

/-- **A split is the one the scan finds.** -/
theorem scans (h : EmailSplit s l d t) : ScansAsEmail s where
  oneAt := h.count_at
  localPart := h.before_eq.symm ▸ h.localPart
  dot := by
    rw [h.after_eq]
    exact List.mem_append_right _ List.mem_cons_self
  topLevel := h.afterLast_eq.symm ▸ h.topLevel
  domain := h.beforeLast_eq.symm ▸ h.domain

end EmailSplit

/-- What the scan finds is a split. -/
theorem ScansAsEmail.split (h : ScansAsEmail s) :
    EmailSplit s (before '@' s) (beforeLast '.' (after '@' s)) (afterLast '.' (after '@' s)) where
  eq := by
    have hat : '@' ∈ s := List.count_pos_iff.1 (by rw [h.oneAt]; exact Nat.one_pos)
    rw [beforeLast_append_afterLast h.dot, before_append_after hat]
  localPart := h.localPart
  domain := h.domain
  topLevel := h.topLevel

/-- **An email is valid when it scans as one**, and it then splits in one way only. -/
theorem isValidEmail_iff_scan (s : SwiftString) :
    (isValidEmail s = true ↔ ScansAsEmail s) ∧
      (isValidEmail s = true ↔
        ∃! p : SwiftString × SwiftString × SwiftString, EmailSplit s p.1 p.2.1 p.2.2) := by
  rw [isValidEmail_iff_split]
  refine ⟨⟨?_, fun h => ⟨_, _, _, h.split⟩⟩, ?_, ?_⟩
  · rintro ⟨l, d, t, h⟩
    exact h.scans
  · rintro ⟨l, d, t, h⟩
    refine ⟨(l, d, t), h, ?_⟩
    rintro ⟨l', d', t'⟩ h'
    have hl : l' = l := h'.before_eq.symm.trans h.before_eq
    have hd : d' = d := h'.beforeLast_eq.symm.trans h.beforeLast_eq
    have ht : t' = t := h'.afterLast_eq.symm.trans h.afterLast_eq
    rw [hl, hd, ht]
  · rintro ⟨⟨l, d, t⟩, h, -⟩
    exact ⟨l, d, t, h⟩

/-! ## The password, as a rule -/

section Password

variable {c : Char}

theorem asciiLetter_lineTerminator (h : isLineTerminator c = true) : asciiLetter c = false := by
  simp only [isLineTerminator, List.contains_eq_mem, List.mem_cons, List.not_mem_nil, or_false,
    decide_eq_true_eq] at h
  simp only [asciiLetter, range, Bool.or_eq_false_iff, Bool.and_eq_false_iff,
    decide_eq_false_iff_not]
  change (¬ 65 ≤ c.toNat ∨ ¬ c.toNat ≤ 90) ∧ (¬ 97 ≤ c.toNat ∨ ¬ c.toNat ≤ 122)
  omega

/-- `(?=.*[p])` asks for a character in `p` with no line terminator before it. -/
theorem mem_matchAt_ahead_dot {p : Char → Bool} {q q' : Pos} :
    q' ∈ (Pattern.ahead (.seq (.atLeast 0 dot) (.cls p))).matchAt q ↔
      q' = q ∧ ∃ a c b, q.rest = a ++ c :: b ∧ (∀ c ∈ a, dot c = true) ∧ p c = true := by
  rw [mem_matchAt_ahead]
  simp only [mem_matchAt_seq, mem_matchAt_atLeast, mem_matchAt_cls, Nat.zero_le, true_and]
  refine and_congr_right fun _ => ?_
  constructor
  · rintro ⟨⟨b₂, s₂⟩, ⟨b₁, s₁⟩, ⟨a, ha, hdot, -⟩, c, hc, rfl, -⟩
    exact ⟨a, c, s₂, ha, hdot, hc⟩
  · rintro ⟨a, c, b, ha, hdot, hc⟩
    exact ⟨⟨some c, b⟩, ⟨_, c :: b⟩, ⟨a, ha, hdot, rfl⟩, c, hc, rfl, rfl⟩

variable [DecimalDigits]

/-- `[A-Za-z\d]` -/
def passwordChar (c : Char) : Bool := asciiLetter c || DecimalDigits.isDecimalDigit c

/-- **The rule**: eight characters or more, letters and digits only, with one of each. -/
structure PasswordRule (s : SwiftString) : Prop where
  length : 8 ≤ s.length
  chars : ∀ c ∈ s, passwordChar c = true
  letter : ∃ c ∈ s, asciiLetter c = true
  digit : ∃ c ∈ s, DecimalDigits.isDecimalDigit c = true

theorem passwordChar_lineTerminator (h : isLineTerminator c = true) : passwordChar c = false := by
  rw [passwordChar, asciiLetter_lineTerminator h, DecimalDigits.lineTerminator c h]
  rfl

theorem passwordChar_space : passwordChar ' ' = false := by
  rw [passwordChar, DecimalDigits.ascii ' ' (by decide)]
  decide

/-- A lookahead runs over every character of a password. -/
theorem dot_of_passwordChar (h : passwordChar c = true) : dot c = true := by
  rw [dot, Bool.not_eq_true', ← Bool.not_eq_true]
  intro hline
  rw [passwordChar_lineTerminator hline] at h
  exact Bool.noConfusion h

/-- What a rule-abiding password has somewhere is found by the lookahead. -/
theorem exists_ahead {p : Char → Bool} (hs : ∀ c ∈ s, passwordChar c = true)
    (h : ∃ c ∈ s, p c = true) :
    ∃ a c b, s = a ++ c :: b ∧ (∀ c ∈ a, dot c = true) ∧ p c = true := by
  obtain ⟨c, hc, hp⟩ := h
  obtain ⟨a, b, rfl⟩ := List.append_of_mem hc
  exact ⟨a, c, b, rfl, fun d hd => dot_of_passwordChar (hs d (List.mem_append_left _ hd)), hp⟩

theorem isValidPassword_iff_rule : isValidPassword s = true ↔ PasswordRule s := by
  simp only [isValidPassword, passwordPattern, Pattern.concat, isMatch_iff, mem_matchAt_seq,
    mem_matchAt_start, mem_matchAt_ahead_dot, mem_matchAt_atLeast, mem_matchAt_finish]
  constructor
  · rintro ⟨q, ⟨_, ⟨rfl, -⟩, _, ⟨rfl, a₁, c₁, b₁, h₁, -, hc₁⟩, _, ⟨rfl, a₂, c₂, b₂, h₂, -, hc₂⟩,
      _, ⟨a, ha, hlen, hchars, -⟩, rfl, -⟩, hq⟩
    -- the match ends where the repetition does, so `$` has skipped nothing
    rw [hq, List.append_nil] at ha
    dsimp only at ha h₁ h₂
    subst ha
    exact ⟨hlen, hchars, ⟨c₁, by simp [h₁], hc₁⟩, ⟨c₂, by simp [h₂], hc₂⟩⟩
  · rintro ⟨hlen, hchars, hletter, hdigit⟩
    have hend : s = s ++ [] := (List.append_nil s).symm
    exact ⟨⟨_, []⟩, ⟨⟨none, s⟩, ⟨rfl, trivial⟩, _, ⟨rfl, exists_ahead hchars hletter⟩, _,
      ⟨rfl, exists_ahead hchars hdigit⟩, ⟨_, []⟩, ⟨s, hend, hlen, hchars, rfl⟩, rfl,
      atFinish_of_end rfl⟩, rfl⟩

/-- **A password is valid when it keeps the rule**; so no space, no line terminator and no other
character beside letters and digits gets in, wherever it stands. -/
theorem isValidPassword_iff (s : SwiftString) :
    (isValidPassword s = true ↔ PasswordRule s) ∧
      ∀ c, c = ' ' ∨ isLineTerminator c = true ∨ passwordChar c = false → c ∈ s →
        isValidPassword s = false := by
  refine ⟨isValidPassword_iff_rule, fun c hc hmem => ?_⟩
  rw [← Bool.not_eq_true, isValidPassword_iff_rule]
  intro hrule
  have hclass : passwordChar c = false := by
    rcases hc with rfl | hline | hclass
    · exact passwordChar_space
    · exact passwordChar_lineTerminator hline
    · exact hclass
  exact not_mem_of_class hrule.chars hclass hmem

end Password

/-- With ASCII digits only: a password with a letter and a digit, and one with a line break after
it. -/
theorem passw0rd_iff : (@isValidPassword asciiDigits "passw0rd".toList = true ↔
      @PasswordRule asciiDigits "passw0rd".toList) ∧
    @isValidPassword asciiDigits "passw0rd\n".toList = false :=
  ⟨(@isValidPassword_iff asciiDigits _).1,
    (@isValidPassword_iff asciiDigits _).2 '\n' (Or.inr (Or.inl (by decide))) (by decide)⟩

end InstaGLAM
