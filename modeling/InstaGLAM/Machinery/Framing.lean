import Mathlib.Data.List.ReduceOption

/-!
# Machinery/Framing — messages in several frames, read back one frame at a time

    messages ──code──▸ frames ──step, step, …──▸ messages
                         ▴
                         other frames, from time to time

A reader is a machine that takes a frame at a time and now and then has a message.  What codes
single messages so that they are read from the idle state and back to it codes sequences of them,
and it does no harm if somebody else sends frames on the same wire, as long as these are messages of
their own and fall between the others; and pieces of a fixed size, put together again, are the
whole.
-/

namespace Framing

variable {σ α β γ : Type*} {step : σ → α → σ × Option β}

/-- What a reader makes of some frames: where it stands then, and the messages it has read. -/
def reads (step : σ → α → σ × Option β) : σ → List α → σ × List β
  | s, [] => (s, [])
  | s, x :: frames =>
    let next := step s x
    let rest := reads step next.1 frames
    (rest.1, next.2.toList ++ rest.2)

theorem reads_cons {s s' : σ} {x : α} {y : Option β} (h : step s x = (s', y)) (frames : List α) :
    reads step s (x :: frames) =
      ((reads step s' frames).1, y.toList ++ (reads step s' frames).2) := by
  rw [reads, h]

/-- Frames may be read in two goes. -/
theorem reads_append {s s' : σ} {frames more : List α} {messages : List β}
    (h : reads step s frames = (s', messages)) : reads step s (frames ++ more) =
      ((reads step s' more).1, messages ++ (reads step s' more).2) := by
  induction frames generalizing s s' messages with
  | nil =>
    obtain ⟨rfl, rfl⟩ := Prod.mk.inj h
    rfl
  | cons x frames ih =>
    obtain ⟨rfl, rfl⟩ := Prod.mk.inj h
    rw [List.cons_append, reads, ih rfl, List.append_assoc]

/-! ## A shared wire -/

/-- On a wire with the frames of messages, and with those of another sender (`none`), the latter
fall between messages: whenever there is one, some messages have been sent and no part of
another. -/
def Between (code : γ → List α) (messages : List γ) (wire : List (Option α)) : Prop :=
  ∀ before after, wire = before ++ none :: after →
    ∃ k, before.reduceOption = (messages.take k).flatMap code

/-- What has been sent before the first frame of the other sender is in one piece. -/
theorem exists_append_of_none {frames tail : List α} {wire : List (Option α)}
    (hwire : wire.reduceOption = frames ++ tail)
    (hnone : ∀ before after, wire = before ++ none :: after →
      frames.length ≤ before.reduceOption.length) :
    ∃ rest, wire = frames.map some ++ rest ∧ rest.reduceOption = tail := by
  induction frames generalizing wire with
  | nil => exact ⟨wire, rfl, hwire⟩
  | cons x frames ih =>
    match wire with
    | [] => exact absurd hwire.symm (List.cons_ne_nil _ _)
    | none :: rest => exact absurd (hnone [] rest rfl) (Nat.not_succ_le_zero _)
    | some x' :: rest =>
      rw [List.reduceOption_cons_of_some] at hwire
      obtain ⟨rfl, hrest⟩ := List.cons.inj hwire
      obtain ⟨rest', rfl, htail⟩ := ih hrest fun before after he => by
        have hle := hnone (some x' :: before) after (by rw [he, List.cons_append])
        rw [List.reduceOption_cons_of_some] at hle
        exact Nat.le_of_succ_le_succ hle
      exact ⟨rest', rfl, htail⟩

section Between

variable {idle : σ} {code : γ → List α} {value : γ → β} {messages : List γ} {m : γ}
  {wire rest : List (Option α)}

theorem between_nil : Between code messages ([] : List (Option α)) := fun before _ he => by
  cases before <;> exact nomatch he

theorem Between.other (h : Between code messages wire) : Between code messages (none :: wire) := by
  intro before after he
  cases before with
  | nil => exact ⟨0, rfl⟩
  | cons frame before =>
    obtain ⟨rfl, htail⟩ := List.cons.inj he
    exact h before after htail

theorem reduceOption_map_some (l : List α) : (l.map some).reduceOption = l := by
  rw [List.reduceOption, List.filterMap_map]
  exact List.filterMap_some

theorem Between.message (h : Between code messages wire) :
    Between code (m :: messages) ((code m).map some ++ wire) := by
  intro before after he
  have hlater : ∀ l, before = (code m).map some ++ l → wire = l ++ none :: after →
      ∃ k, before.reduceOption = ((m :: messages).take k).flatMap code := by
    rintro l rfl hwire
    obtain ⟨k, hk⟩ := h l after hwire
    refine ⟨k + 1, ?_⟩
    rw [List.reduceOption_append, reduceOption_map_some, hk, List.take_succ_cons, List.flatMap_cons]
  rcases List.append_eq_append_iff.1 he with ⟨l, hbefore, hwire⟩ | ⟨l, hmap, hafter⟩
  · exact hlater l hbefore hwire
  · cases l with
    | nil => exact hlater [] (by simpa using hmap.symm) hafter.symm
    | cons frame l =>
      -- the frame of the other sender is none of the message
      have hmem : none ∈ (code m).map some := by
        rw [hmap, (List.cons.inj hafter).1]
        exact List.mem_append_right _ List.mem_cons_self
      obtain ⟨x, -, hx⟩ := List.mem_map.1 hmem
      exact absurd hx (Option.some_ne_none x)

theorem Between.tail (h : Between code messages (none :: wire)) : Between code messages wire :=
  fun before after he => h (none :: before) after (by rw [he, List.cons_append])

/-- A message that has been begun is in one piece, and the next ones follow. -/
theorem Between.exists_append {x : α} (h : Between code (m :: messages) (some x :: wire))
    (hcode : code m ≠ []) (hwire : (some x :: wire).reduceOption = (m :: messages).flatMap code) :
    ∃ rest, some x :: wire = (code m).map some ++ rest ∧
      rest.reduceOption = messages.flatMap code ∧ Between code messages rest := by
  -- with something sent before a frame of the other sender, the first message has been sent
  have htake : ∀ before k, before ≠ [] → before = ((m :: messages).take k).flatMap code →
      ∃ k', before = code m ++ (messages.take k').flatMap code := by
    intro before k hne he
    cases k with
    | zero => exact absurd he hne
    | succ k => exact ⟨k, he⟩
  obtain ⟨rest, hrest, htail⟩ := exists_append_of_none hwire fun before after he => by
    obtain ⟨k, hk⟩ := h before after he
    have hne : before.reduceOption ≠ [] := by
      cases before with
      | nil => exact nomatch (List.cons.inj he).1
      | cons y before =>
        obtain ⟨rfl, -⟩ := List.cons.inj he
        rw [List.reduceOption_cons_of_some]
        exact List.cons_ne_nil _ _
    obtain ⟨k', hk'⟩ := htake _ k hne hk
    rw [hk', List.length_append]
    exact Nat.le_add_right _ _
  refine ⟨rest, hrest, htail, fun before after he => ?_⟩
  obtain ⟨k, hk⟩ := h ((code m).map some ++ before) after
    (by rw [hrest, he, List.append_assoc])
  rw [List.reduceOption_append, reduceOption_map_some] at hk
  obtain ⟨k', hk'⟩ := htake _ k (by simp [hcode]) hk
  exact ⟨k', List.append_cancel_left hk'⟩

/-- **A wire is read if single messages are**, from the idle state and back to it, and the frames of
the other sender between them. -/
theorem reads_between {x : α} {y : β}
    (h : ∀ m ∈ messages, reads step idle (code m) = (idle, [value m]))
    (hx : step idle x = (idle, some y)) (hwire : wire.reduceOption = messages.flatMap code)
    (hbetween : Between code messages wire) :
    ∃ read : List (Option γ),
      reads step idle (wire.map (·.getD x)) = (idle, read.map fun m => (m.map value).getD y) ∧
        read.reduceOption = messages ∧ read.countP Option.isNone = wire.countP Option.isNone := by
  have hcode : ∀ m ∈ messages, code m ≠ [] := fun m hm he => by
    have hread := h m hm
    rw [he] at hread
    exact List.cons_ne_nil _ _ (Prod.mk.inj hread).2.symm
  induction hlength : wire.length using Nat.strongRecOn generalizing wire messages with
  | ind n ih =>
    match wire, messages with
    | [], [] => exact ⟨[], rfl, rfl, rfl⟩
    | [], m :: messages =>
      have hnil := (List.append_eq_nil_iff.1 hwire.symm).1
      exact absurd hnil (hcode m List.mem_cons_self)
    | none :: wire, messages =>
      have hrest : wire.reduceOption = messages.flatMap code := hwire
      obtain ⟨read, hread, hmessages, hcount⟩ := ih wire.length (hlength ▸ Nat.lt_succ_self _) h
        hrest hbetween.tail hcode rfl
      refine ⟨none :: read, ?_, hmessages, by simp [hcount]⟩
      rw [List.map_cons, Option.getD_none, reads_cons hx, hread]
      rfl
    | some x' :: wire, [] => exact absurd hwire (List.cons_ne_nil _ _)
    | some x' :: wire, m :: messages =>
      obtain ⟨rest, hrest, htail, hbetween'⟩ :=
        hbetween.exists_append (hcode m List.mem_cons_self) hwire
      have hshorter : rest.length < n := by
        rw [← hlength, hrest, List.length_append, List.length_map]
        exact Nat.lt_add_of_pos_left (List.length_pos_iff.2 (hcode m List.mem_cons_self))
      obtain ⟨read, hread, hmessages, hcount⟩ := ih rest.length hshorter
        (fun m' hm => h m' (List.mem_cons_of_mem _ hm)) htail hbetween'
        (fun m' hm => hcode m' (List.mem_cons_of_mem _ hm)) rfl
      refine ⟨some m :: read, ?_, by rw [List.reduceOption_cons_of_some, hmessages], ?_⟩
      · have hmap : ((code m).map some).map (·.getD x) = code m := by
          rw [List.map_map]
          exact List.map_id _
        rw [hrest, List.map_append, hmap, reads_append (h m List.mem_cons_self), hread]
        rfl
      · rw [hrest, List.countP_append, List.countP_cons_of_neg (by simp), hcount]
        simp [List.countP_map]

end Between

/-! ## Pieces -/

/-- Pieces of one size, put together. -/
theorem flatten_pieces (l : List α) (size n : ℕ) :
    ((List.range n).map fun i => (l.drop (i * size)).take size).flatten = l.take (n * size) := by
  induction n with
  | zero => simp
  | succ n ih =>
    rw [List.range_succ, List.map_append, List.flatten_append, ih, Nat.succ_mul, List.take_add]
    simp

end Framing
