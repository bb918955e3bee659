import InstaGLAM.Machinery.Framing
import Mathlib.Data.Nat.Digits.Lemmas

/-!
# FirebaseDatabase/WebSocketFrames — long messages travel in segments, with their number first

    {"t":"d", …}  ──▸  "3"  {"t":"d"…  …  …}  ──▸  {"t":"d", …}

`FWebSocketConnection` cuts the text of a message into segments of 16384 UTF-16 units and sends
their number before them; what is short enough goes alone.  The other side reads a frame of at most
four units as a number if it can.  `FSRWebSocket` turns each frame into UTF-8, and what is no text
is not sent at all: a cut between the two halves of a surrogate pair loses both segments, and with
them the message.  So does the `0` that keeps the connection alive if it falls between two segments,
and nothing in the class keeps it from that.
-/

namespace InstaGLAM.FirebaseDatabase

open Framing

/-- An `NSString`, as its UTF-16 units. -/
abbrev NSString := List UInt16

/-! ## Sending -/

def kWebsocketMaxFrameSize : ℕ := 16384

/-- `-substringWithRange:` -/
def substringWithRange (s : NSString) (location length : ℕ) : NSString :=
  (s.drop location).take length

/-- `+[FUtilities splitString:intoMaxSize:]`, whose loop goes on while `c` is below the length. -/
def splitString (str : NSString) (size : ℕ) : List NSString :=
  if str.length ≤ size then [str]
  else (List.range ((str.length + size - 1) / size)).map fun i =>
    let c := i * size
    if str.length < c + size then substringWithRange str c (size - (c + size - str.length))
    else substringWithRange str c size

/-- The first half of a character beyond `U+FFFF`. -/
def isSurrogateHigh (u : UInt16) : Bool := 0xD800 ≤ u && u ≤ 0xDBFF

/-- The second half. -/
def isSurrogateLow (u : UInt16) : Bool := 0xDC00 ≤ u && u ≤ 0xDFFF

/-- Whether `-dataUsingEncoding:` gives UTF-8: each surrogate has its other half. -/
def canBeConverted : NSString → Bool
  | [] => true
  | [u] => !isSurrogateHigh u && !isSurrogateLow u
  | u :: v :: s =>
    if isSurrogateHigh u then isSurrogateLow v && canBeConverted s
    else !isSurrogateLow u && canBeConverted (v :: s)

/-- `-[FSRWebSocket send:]`: the frames that are sent. -/
def webSocketSend (data : NSString) : List NSString := if canBeConverted data then [data] else []

/-- `"%u"` -/
def decimal (n : ℕ) : NSString :=
  if n = 0 then [0x30] else (Nat.digits 10 n).reverse.map fun d => UInt16.ofNat (0x30 + d)

/-- `-[FWebSocketConnection send:]`, from the text of the dictionary on. -/
def send (data : NSString) : List NSString :=
  let dataSegs := splitString data kWebsocketMaxFrameSize
  (if dataSegs.length > 1 then webSocketSend (decimal dataSegs.length) else []) ++
    dataSegs.flatMap webSocketSend

/-- `-[FWebSocketConnection nop:]`, which keeps the connection alive. -/
def nop : List NSString := webSocketSend [0x30]

/-! ## Reading -/

/-- The part of an `FWebSocketConnection` that reads frames. -/
structure FWebSocketConnection where
  totalFrames : ℤ
  frame : Option NSString
  deriving DecidableEq

def digitValue (u : UInt16) : Option ℕ :=
  if 0x30 ≤ u && u ≤ 0x39 then some (u.toNat - 0x30) else none

/-- The digits at the front of a string. -/
def digitsValue (value : ℕ) : NSString → ℕ
  | [] => value
  | u :: s => (digitValue u).elim value fun d => digitsValue (10 * value + d) s

/-- `-intValue`, for strings that are too short to overflow it. -/
def intValue (s : NSString) : ℤ :=
  match s.dropWhile fun u => u == 0x20 || (0x09 ≤ u && u ≤ 0x0D) with
  | 0x2D :: digits => -(digitsValue 0 digits : ℤ)
  | 0x2B :: digits => digitsValue 0 digits
  | digits => digitsValue 0 digits

namespace FWebSocketConnection

/-- Between messages. -/
def idle : FWebSocketConnection := ⟨0, none⟩

/-- `-handleNewFrameCount:` -/
def handleNewFrameCount (numFrames : ℤ) : FWebSocketConnection where
  totalFrames := numFrames
  frame := some []

/-- `-extractFrameCount:` -/
def extractFrameCount (message : NSString) : FWebSocketConnection × Option NSString :=
  if message.length ≤ 4 ∧ 0 < intValue message then
    (handleNewFrameCount (intValue message), none)
  else (handleNewFrameCount 1, some message)

variable (c : FWebSocketConnection)

/-- `-buffering` -/
def buffering : Bool := c.frame.isSome

/-- `-appendFrame:`, with the text that the delegate gets as JSON. -/
def appendFrame (message : NSString) : FWebSocketConnection × Option NSString :=
  let frame := c.frame.map (· ++ message)
  let totalFrames := c.totalFrames - 1
  if totalFrames = 0 then ({ c with totalFrames, frame := none }, frame)
  else ({ c with totalFrames, frame }, none)

/-- `-handleIncomingFrame:` -/
def handleIncomingFrame (message : NSString) : FWebSocketConnection × Option NSString :=
  if c.buffering then c.appendFrame message
  else
    match extractFrameCount message with
    | (c, none) => (c, none)
    | (c, some remaining) => c.appendFrame remaining

end FWebSocketConnection

/-! ## Segments -/

section Segments

variable {str : NSString} {size : ℕ}

theorem splitString_eq (h : size < str.length) :
    splitString str size = (List.range ((str.length + size - 1) / size)).map fun i =>
      (str.drop (i * size)).take size := by
  rw [splitString, if_neg (Nat.not_le.2 h)]
  refine List.map_congr_left fun i _ => ?_
  simp only [substringWithRange]
  split
  · rw [List.take_eq_take_iff, List.length_drop]
    omega
  · rfl

theorem length_le_of_mem_splitString {seg : NSString} (h : seg ∈ splitString str size) :
    seg.length ≤ size := by
  by_cases hshort : str.length ≤ size
  · rw [splitString, if_pos hshort] at h
    rwa [List.mem_singleton.1 h]
  · rw [splitString_eq (Nat.not_le.1 hshort)] at h
    obtain ⟨i, -, rfl⟩ := List.mem_map.1 h
    exact List.length_take_le ..

theorem flatten_splitString (hsize : 0 < size) : (splitString str size).flatten = str := by
  by_cases h : str.length ≤ size
  · rw [splitString, if_pos h, List.flatten_singleton]
  · have hlast := Nat.lt_div_mul_add hsize (a := str.length + size - 1)
    rw [splitString_eq (Nat.not_le.1 h), flatten_pieces]
    exact List.take_of_length_le (by omega)

theorem length_splitString_of_lt (h : size < str.length) :
    (splitString str size).length = (str.length + size - 1) / size := by
  rw [splitString_eq h, List.length_map, List.length_range]

theorem one_lt_length_splitString (hsize : 0 < size) (h : size < str.length) :
    1 < (splitString str size).length := by
  rw [length_splitString_of_lt h]
  exact (Nat.le_div_iff_mul_le hsize).2 (by omega)

theorem length_splitString_lt (hsize : 0 < size) {n : ℕ} (h : size < str.length)
    (hn : str.length ≤ n * size) : (splitString str size).length < n + 1 := by
  rw [length_splitString_of_lt h, Nat.div_lt_iff_lt_mul hsize, Nat.succ_mul]
  omega

end Segments

/-! ## The number of segments -/

/-- A string that starts with neither a space nor a sign is read from its front. -/
theorem intValue_cons {u : UInt16} {s : NSString}
    (hspace : (u == 0x20 || (0x09 ≤ u && u ≤ 0x0D)) = false) (hminus : u ≠ 0x2D)
    (hplus : u ≠ 0x2B) : intValue (u :: s) = digitsValue 0 (u :: s) := by
  rw [intValue, List.dropWhile_cons_of_neg (by simp [hspace])]
  split
  · next he => exact absurd (List.cons.inj he).1 hminus
  · next he => exact absurd (List.cons.inj he).1 hplus
  · rfl

/-- The unit of a digit. -/
theorem digitValue_ofNat {d : ℕ} (h : d < 10) : digitValue (UInt16.ofNat (0x30 + d)) = some d := by
  revert d
  decide

theorem digitsValue_map (value : ℕ) {digits : List ℕ} (h : ∀ d ∈ digits, d < 10) :
    digitsValue value (digits.map fun d => UInt16.ofNat (0x30 + d)) =
      digits.foldl (fun value d => 10 * value + d) value := by
  induction digits generalizing value with
  | nil => rfl
  | cons d digits ih =>
    have hd := digitValue_ofNat (h d List.mem_cons_self)
    rw [List.map_cons, digitsValue, hd]
    exact ih _ fun d' hd' => h d' (List.mem_cons_of_mem _ hd')

theorem decimal_of_pos {n : ℕ} (h : 0 < n) :
    decimal n = (Nat.digits 10 n).reverse.map fun d => UInt16.ofNat (0x30 + d) :=
  if_neg h.ne'

theorem digitsValue_decimal {n : ℕ} (h : 0 < n) : digitsValue 0 (decimal n) = n := by
  have hlt : ∀ d ∈ (Nat.digits 10 n).reverse, d < 10 := fun d hd =>
    Nat.digits_lt_base (by decide) (List.mem_reverse.1 hd)
  have hn := Nat.ofDigits_digits 10 n
  rw [Nat.ofDigits_eq_foldr] at hn
  rw [decimal_of_pos h, digitsValue_map 0 hlt, List.foldl_reverse]
  simpa [Nat.add_comm] using hn

/-- The units of a number are those of its digits. -/
theorem exists_of_mem_decimal {n : ℕ} {u : UInt16} (hu : u ∈ decimal n) :
    ∃ d < 10, u = UInt16.ofNat (0x30 + d) := by
  obtain rfl | hn := n.eq_zero_or_pos
  · exact ⟨0, by decide, List.mem_singleton.1 hu⟩
  · rw [decimal_of_pos hn] at hu
    obtain ⟨d, hd, rfl⟩ := List.mem_map.1 hu
    exact ⟨d, Nat.digits_lt_base (by decide) (List.mem_reverse.1 hd), rfl⟩

theorem decimal_ne_nil (n : ℕ) : decimal n ≠ [] := by
  obtain rfl | hn := n.eq_zero_or_pos
  · exact List.cons_ne_nil _ _
  · rw [decimal_of_pos hn, Ne, List.map_eq_nil_iff, List.reverse_eq_nil_iff]
    exact Nat.digits_ne_nil_iff_ne_zero.2 hn.ne'

/-- **The number of segments is read as it was written.** -/
theorem intValue_decimal {n : ℕ} (h : 0 < n) : intValue (decimal n) = n := by
  have hdigits := digitsValue_decimal h
  cases hs : decimal n with
  | nil => exact absurd hs (decimal_ne_nil n)
  | cons u s =>
    obtain ⟨d, hd, rfl⟩ := exists_of_mem_decimal (hs ▸ List.mem_cons_self)
    rw [hs] at hdigits
    rw [← hdigits]
    refine (intValue_cons ?_ ?_ ?_).trans (by rw [hdigits]) <;> (clear hs hdigits; revert d; decide)

theorem length_decimal {n : ℕ} (h : 0 < n) (hlt : n < 10000) : (decimal n).length ≤ 4 := by
  rw [decimal_of_pos h, List.length_map, List.length_reverse, Nat.digits_length_le_iff (by decide)]
  exact hlt

/-! ## Text -/

theorem canBeConverted_cons {u : UInt16}
    (h : isSurrogateHigh u = false ∧ isSurrogateLow u = false) (s : NSString) :
    canBeConverted (u :: s) = canBeConverted s := by
  cases s <;> simp [canBeConverted, h.1, h.2]

theorem canBeConverted_of_forall {s : NSString}
    (h : ∀ u ∈ s, isSurrogateHigh u = false ∧ isSurrogateLow u = false) :
    canBeConverted s = true := by
  induction s with
  | nil => rfl
  | cons u s ih =>
    rw [canBeConverted_cons (h u List.mem_cons_self)]
    exact ih fun v hv => h v (List.mem_cons_of_mem _ hv)

theorem canBeConverted_decimal (n : ℕ) : canBeConverted (decimal n) = true := by
  refine canBeConverted_of_forall fun u hu => ?_
  obtain ⟨d, hd, rfl⟩ := exists_of_mem_decimal hu
  clear hu
  revert d
  decide

theorem canBeConverted_of_low {u : UInt16} (h : isSurrogateLow u = true) (s : NSString) :
    canBeConverted (u :: s) = false := by
  have hhigh : isSurrogateHigh u = false := by
    simp only [isSurrogateLow, isSurrogateHigh, Bool.and_eq_true, decide_eq_true_eq,
      Bool.and_eq_false_iff, decide_eq_false_iff_not, UInt16.le_iff_toNat_le] at h ⊢
    exact Or.inr fun hle => absurd (h.1.trans hle) (by decide)
  cases s with
  | nil => simp [canBeConverted, h]
  | cons v s => simp [canBeConverted, h, hhigh]

/-- A cut that is not between the halves of a character leaves text on both sides. -/
theorem canBeConverted_append {s t : NSString} (h : canBeConverted (s ++ t) = true)
    (ht : ∀ u, t.head? = some u → isSurrogateLow u = false) :
    canBeConverted s = true ∧ canBeConverted t = true := by
  induction s using canBeConverted.induct with
  | case1 => exact ⟨rfl, h⟩
  | case2 u =>
    cases t with
    | nil => exact ⟨h, rfl⟩
    | cons v t =>
      have hv := ht v rfl
      simp only [List.cons_append, List.nil_append, canBeConverted, hv] at h ⊢
      split at h
      · exact absurd h (by simp)
      · next hu =>
        rw [Bool.and_eq_true] at h
        exact ⟨by simp [hu, h.1], h.2⟩
  | case3 u v s hu ih =>
    simp only [List.cons_append, canBeConverted, hu, if_true, Bool.and_eq_true] at h ⊢
    obtain ⟨hs, ht⟩ := ih h.2
    exact ⟨⟨h.1, hs⟩, ht⟩
  | case4 u v s hu ih =>
    simp only [List.cons_append, canBeConverted, if_neg hu, Bool.and_eq_true] at h ih ⊢
    obtain ⟨hs, ht⟩ := ih h.2
    exact ⟨⟨h.1, hs⟩, ht⟩

theorem canBeConverted_cut {s : NSString} {p : ℕ} (h : canBeConverted s = true)
    (hp : ∀ u, s[p]? = some u → isSurrogateLow u = false) :
    canBeConverted (s.take p) = true ∧ canBeConverted (s.drop p) = true := by
  refine canBeConverted_append (by rwa [List.take_append_drop]) fun u hu => hp u ?_
  rwa [List.head?_drop] at hu

theorem exists_take_drop {s : NSString} {p size : ℕ} {u : UInt16} (hsize : 0 < size)
    (hu : s[p]? = some u) : ∃ rest, (s.drop p).take size = u :: rest := by
  obtain ⟨hlt, he⟩ := List.getElem?_eq_some_iff.1 hu
  obtain ⟨n, rfl⟩ := Nat.exists_eq_add_one.2 hsize
  exact ⟨(s.drop (p + 1)).take n, by rw [List.drop_eq_getElem_cons hlt, he, List.take_succ_cons]⟩

/-- **The segments of a text are texts exactly if no cut is between the halves of a character.** -/
theorem canBeConverted_splitString {str : NSString} {size : ℕ} (hsize : 0 < size)
    (hstr : canBeConverted str = true) :
    (∀ seg ∈ splitString str size, canBeConverted seg = true) ↔
      ∀ i u, 0 < i → str[i * size]? = some u → isSurrogateLow u = false := by
  by_cases hlength : str.length ≤ size
  · rw [splitString, if_pos hlength]
    refine iff_of_true (fun seg hseg => List.mem_singleton.1 hseg ▸ hstr) fun i u hi hu => ?_
    have hlt := (List.getElem?_eq_some_iff.1 hu).1
    have hle := Nat.le_mul_of_pos_left size hi
    omega
  · rw [splitString_eq (Nat.not_le.1 hlength)]
    simp only [List.forall_mem_map, List.mem_range]
    constructor
    · intro hall i u hi hu
      have hlt := (List.getElem?_eq_some_iff.1 hu).1
      have hseg := hall i <| (Nat.le_div_iff_mul_le hsize).2 (by rw [Nat.succ_mul]; omega)
      obtain ⟨rest, hrest⟩ := exists_take_drop hsize hu
      rw [hrest] at hseg
      by_contra hlow
      rw [Bool.not_eq_false] at hlow
      rw [canBeConverted_of_low hlow] at hseg
      exact absurd hseg Bool.false_ne_true
    · intro hcuts i _
      have hdrop : canBeConverted (str.drop (i * size)) = true := by
        obtain rfl | hi := i.eq_zero_or_pos
        · rwa [Nat.zero_mul, List.drop_zero]
        · exact (canBeConverted_cut hstr fun u => hcuts i u hi).2
      refine (canBeConverted_cut hdrop fun u hu => hcuts (i + 1) u i.succ_pos ?_).1
      rwa [List.getElem?_drop, ← Nat.succ_mul] at hu

/-! ## Frames -/

namespace FWebSocketConnection

/-- What is no number is a message, or all there is of one. -/
theorem handleIncomingFrame_text {m : NSString} (h : ¬(m.length ≤ 4 ∧ 0 < intValue m)) :
    idle.handleIncomingFrame m = (idle, some m) := by
  have hextract : extractFrameCount m = (handleNewFrameCount 1, some m) := if_neg h
  rw [handleIncomingFrame, hextract]
  rfl

/-- What is a number announces a message. -/
theorem handleIncomingFrame_count {m : NSString} (h : m.length ≤ 4 ∧ 0 < intValue m) :
    idle.handleIncomingFrame m = (handleNewFrameCount (intValue m), none) := by
  have hextract : extractFrameCount m = (handleNewFrameCount (intValue m), none) := if_pos h
  rw [handleIncomingFrame, hextract]
  rfl

theorem handleIncomingFrame_decimal {n : ℕ} (h : 0 < n) (hlt : n < 10000) :
    idle.handleIncomingFrame (decimal n) = (⟨n, some []⟩, none) := by
  have hvalue := intValue_decimal h
  have hcount : (decimal n).length ≤ 4 ∧ 0 < intValue (decimal n) :=
    ⟨length_decimal h hlt, by rw [hvalue]; exact_mod_cast h⟩
  rw [handleIncomingFrame_count hcount, hvalue]
  rfl

/-- Fewer segments than have been announced leave the reader waiting. -/
theorem reads_fewer (segs : List NSString) {total : ℤ} (buffer : NSString)
    (h : segs.length < total) : reads handleIncomingFrame ⟨total, some buffer⟩ segs =
      (⟨total - segs.length, some (buffer ++ segs.flatten)⟩, []) := by
  induction segs generalizing total buffer with
  | nil => simp [reads]
  | cons seg segs ih =>
    rw [List.length_cons, Nat.cast_succ] at h
    have hstep : handleIncomingFrame ⟨total, some buffer⟩ seg =
        (⟨total - 1, some (buffer ++ seg)⟩, none) := if_neg (show ¬total - 1 = 0 by omega)
    rw [reads_cons hstep, ih _ (by omega), List.length_cons, List.flatten_cons, Nat.cast_succ,
      List.append_assoc, sub_sub, add_comm (1 : ℤ)]
    rfl

/-- The last segment completes the message. -/
theorem reads_segments {segs : List NSString} (h : segs ≠ []) :
    reads handleIncomingFrame ⟨segs.length, some []⟩ segs = (idle, [segs.flatten]) := by
  obtain ⟨first, last, rfl⟩ := (List.eq_nil_or_concat' segs).resolve_left h
  have htotal : ((first ++ [last]).length : ℤ) - first.length = 1 := by simp
  have hfewer := reads_fewer first [] (show (first.length : ℤ) < (first ++ [last]).length by simp)
  have hlast : handleIncomingFrame ⟨1, some first.flatten⟩ last =
      (idle, some (first.flatten ++ last)) := rfl
  rw [htotal, List.nil_append] at hfewer
  rw [reads_append hfewer, reads_cons hlast, List.flatten_append, List.flatten_singleton]
  rfl

end FWebSocketConnection

open FWebSocketConnection

/-! ## Round trips -/

/-- The text of a dictionary that is not too long: its first unit is a brace. -/
structure IsMessage (data : NSString) : Prop where
  head : data.head? = some 0x7B
  text : canBeConverted data = true
  length_le : data.length ≤ 9999 * kWebsocketMaxFrameSize

/-- No cut is between the halves of a character. -/
def CutsApart (data : NSString) : Prop :=
  ∀ i u, 0 < i → data[i * kWebsocketMaxFrameSize]? = some u → isSurrogateLow u = false

theorem intValue_of_head {data : NSString} (h : data.head? = some 0x7B) : intValue data = 0 := by
  obtain ⟨s, rfl⟩ : ∃ s, data = 0x7B :: s := by
    cases data with
    | nil => exact absurd h (by simp)
    | cons u s => exact ⟨s, by rw [Option.some.inj h]⟩
  exact intValue_cons (by decide) (by decide) (by decide)

/-- What cannot be converted is left out. -/
theorem flatMap_webSocketSend (segs : List NSString) :
    segs.flatMap webSocketSend = segs.filter canBeConverted := by
  induction segs with
  | nil => rfl
  | cons seg segs ih =>
    rw [List.flatMap_cons, ih, webSocketSend]
    cases h : canBeConverted seg <;> simp [h]

theorem splitString_pos : 0 < kWebsocketMaxFrameSize := by decide

/-- A long message is announced. -/
theorem send_of_lt {data : NSString} (hlong : kWebsocketMaxFrameSize < data.length) :
    send data = decimal (splitString data kWebsocketMaxFrameSize).length ::
      (splitString data kWebsocketMaxFrameSize).filter canBeConverted := by
  rw [send, if_pos (one_lt_length_splitString splitString_pos hlong), webSocketSend,
    if_pos (canBeConverted_decimal _), flatMap_webSocketSend]
  rfl

theorem reads_send_of_lt {data : NSString} (h : IsMessage data)
    (hlong : kWebsocketMaxFrameSize < data.length) :
    reads handleIncomingFrame idle (send data) =
      reads handleIncomingFrame ⟨(splitString data kWebsocketMaxFrameSize).length, some []⟩
        ((splitString data kWebsocketMaxFrameSize).filter canBeConverted) := by
  have hmany := one_lt_length_splitString splitString_pos hlong
  have hfew := length_splitString_lt splitString_pos hlong h.length_le
  rw [send_of_lt hlong, reads_cons (handleIncomingFrame_decimal (Nat.zero_lt_of_lt hmany) hfew)]
  rfl

/-- A short message is sent as it is. -/
theorem send_of_le {data : NSString} (h : IsMessage data)
    (hshort : data.length ≤ kWebsocketMaxFrameSize) : send data = [data] := by
  rw [send, flatMap_webSocketSend, splitString, if_pos hshort, if_neg (by simp)]
  simp [h.text]

theorem reads_send_of_le {data : NSString} (h : IsMessage data)
    (hshort : data.length ≤ kWebsocketMaxFrameSize) :
    reads handleIncomingFrame idle (send data) = (idle, [data]) := by
  have htext : ¬(data.length ≤ 4 ∧ 0 < intValue data) := fun hcount =>
    absurd hcount.2 (intValue_of_head h.head).not_gt
  rw [send_of_le h hshort, reads_cons (handleIncomingFrame_text htext)]
  rfl

/-- **A message is read back** if its segments can be sent. -/
theorem reads_send {data : NSString} (h : IsMessage data) (hcuts : CutsApart data) :
    reads handleIncomingFrame idle (send data) = (idle, [data]) := by
  by_cases hshort : data.length ≤ kWebsocketMaxFrameSize
  · exact reads_send_of_le h hshort
  · have hlong := Nat.not_le.1 hshort
    have hmany := one_lt_length_splitString splitString_pos hlong
    have hall := (canBeConverted_splitString splitString_pos h.text).2 hcuts
    rw [reads_send_of_lt h hlong, List.filter_eq_self.2 hall,
      reads_segments (List.ne_nil_of_length_pos (Nat.zero_lt_of_lt hmany)),
      flatten_splitString splitString_pos]

/-- A segment is not sent, and the reader waits for ever. -/
theorem reads_send_of_not {data : NSString} (h : IsMessage data) (hcuts : ¬CutsApart data) :
    (∃ seg ∈ splitString data kWebsocketMaxFrameSize, webSocketSend seg = []) ∧
      (reads handleIncomingFrame idle (send data)).2 = [] ∧
      (reads handleIncomingFrame idle (send data)).1.buffering = true := by
  have hsome : ¬∀ seg ∈ splitString data kWebsocketMaxFrameSize, canBeConverted seg = true :=
    fun hall => hcuts ((canBeConverted_splitString splitString_pos h.text).1 hall)
  have hlong : kWebsocketMaxFrameSize < data.length := by
    by_contra hshort
    refine hsome fun seg hseg => ?_
    rw [splitString, if_pos (Nat.not_lt.1 hshort)] at hseg
    exact List.mem_singleton.1 hseg ▸ h.text
  push Not at hsome
  obtain ⟨seg, hmem, hseg⟩ := hsome
  have hfewer : ((splitString data kWebsocketMaxFrameSize).filter canBeConverted).length <
      (splitString data kWebsocketMaxFrameSize).length :=
    List.length_filter_lt_length_iff_exists.2 ⟨seg, hmem, hseg⟩
  refine ⟨⟨seg, hmem, if_neg hseg⟩, ?_⟩
  rw [reads_send_of_lt h hlong, reads_fewer _ _ (by exact_mod_cast hfewer)]
  exact ⟨rfl, rfl⟩

/-- **A message is read back exactly if no cut falls between the halves of a character**; otherwise
a segment is not sent, and the reader waits for it with nothing read. -/
theorem read_iff {data : NSString} (h : IsMessage data) :
    ((reads handleIncomingFrame idle (send data)).2 = [data] ↔ CutsApart data) ∧
      (¬CutsApart data →
        (∃ seg ∈ splitString data kWebsocketMaxFrameSize, webSocketSend seg = []) ∧
        (reads handleIncomingFrame idle (send data)).2 = [] ∧
        (reads handleIncomingFrame idle (send data)).1.buffering = true) := by
  refine ⟨⟨fun hread => ?_, fun hcuts => by rw [reads_send h hcuts]⟩, reads_send_of_not h⟩
  by_contra hcuts
  rw [(reads_send_of_not h hcuts).2.1] at hread
  exact absurd hread.symm (List.cons_ne_nil _ _)

/-- A message with a smile at the end of its first segment. -/
def smile : NSString := 0x7B :: (List.replicate 16382 0x61 ++ [0xD83D, 0xDE00, 0x7D])

theorem isMessage_smile : IsMessage smile where
  head := rfl
  text := by
    have hletters : ∀ n, canBeConverted (List.replicate n 0x61 ++ [0xD83D, 0xDE00, 0x7D]) := by
      intro n
      induction n with
      | zero => decide
      | succ n ih => rwa [List.replicate_succ, List.cons_append, canBeConverted_cons (by decide)]
    rw [smile, canBeConverted_cons (by decide)]
    exact hletters 16382
  length_le := by
    rw [smile, List.length_cons, List.length_append, List.length_replicate]
    decide

theorem read_iff_smile : (reads handleIncomingFrame idle (send smile)).2 ≠ [smile] := by
  have hunit : ∀ n, (0x7B :: (List.replicate n 0x61 ++ [0xD83D, 0xDE00, 0x7D]) : NSString)[n + 2]? =
      some 0xDE00 := by
    intro n
    simp
  intro hread
  exact absurd ((read_iff isMessage_smile).1.1 hread 1 0xDE00 Nat.one_pos (hunit 16382)) (by decide)

/-! ## The wire

`-send:` runs on the database queue and hands its frames over one by one; the timer of `-nop:` runs
on the main thread, and no lock keeps it out of the middle of a message. -/

/-- The frames as they come to the work queue of the web socket, `none` for that of `-nop:`. -/
def onWire (wire : List (Option NSString)) : List NSString :=
  wire.flatMap fun frame => frame.elim nop fun frame => [frame]

theorem onWire_eq (wire : List (Option NSString)) : onWire wire = wire.map (·.getD [0x30]) := by
  induction wire with
  | nil => rfl
  | cons frame wire ih =>
    rw [onWire, List.flatMap_cons, List.map_cons, ← ih]
    cases frame <;> rfl

/-- **All messages are read back, in order**, with the `0`s that keep the connection alive among
them, and nothing is left over, if each `0` falls between two messages. -/
theorem read_back {messages : List NSString} {wire : List (Option NSString)}
    (h : ∀ data ∈ messages, IsMessage data ∧ CutsApart data)
    (hwire : wire.reduceOption = messages.flatMap send) (hbetween : Between send messages wire) :
    ∃ read : List (Option NSString),
      reads handleIncomingFrame idle (onWire wire) = (idle, read.map (·.getD [0x30])) ∧
        read.reduceOption = messages ∧ read.countP Option.isNone = wire.countP Option.isNone := by
  have hnop : handleIncomingFrame idle [0x30] = (idle, some [0x30]) := by decide
  have hsend : ∀ data ∈ messages, reads handleIncomingFrame idle (send data) = (idle, [id data]) :=
    fun data hdata => reads_send (h data hdata).1 (h data hdata).2
  obtain ⟨read, hread, hmessages⟩ := reads_between hsend hnop hwire hbetween
  refine ⟨read, ?_, hmessages⟩
  rw [onWire_eq, hread]
  simp

/-- A message of two segments. -/
def longMessage : NSString := 0x7B :: List.replicate 20000 0x61

theorem mem_longMessage {u : UInt16} (hu : u ∈ longMessage) : u = 0x7B ∨ u = 0x61 :=
  (List.mem_cons.1 hu).imp_right List.eq_of_mem_replicate

theorem isMessage_longMessage : IsMessage longMessage ∧ CutsApart longMessage := by
  refine ⟨⟨rfl, canBeConverted_of_forall fun u hu => ?_, ?_⟩, fun i u _ hu => ?_⟩
  · rcases mem_longMessage hu with rfl | rfl <;> decide
  · rw [longMessage, List.length_cons, List.length_replicate]
    decide
  · rcases mem_longMessage (List.mem_of_getElem? hu) with rfl | rfl <;> decide

theorem read_back_longMessage : ∃ read : List (Option NSString),
    reads handleIncomingFrame idle (onWire (none :: ((send longMessage).map some ++ [none]))) =
      (idle, read.map (·.getD [0x30])) ∧
    read.reduceOption = [longMessage] ∧ read.countP Option.isNone = 2 := by
  have hbetween : Between send [longMessage] (none :: ((send longMessage).map some ++ [none])) :=
    (Between.message (Between.other between_nil)).other
  have hall : ∀ data ∈ [longMessage], IsMessage data ∧ CutsApart data := fun data hdata =>
    List.mem_singleton.1 hdata ▸ isMessage_longMessage
  have hwire : (none :: ((send longMessage).map some ++ [none])).reduceOption =
      [longMessage].flatMap send := by
    simp [List.reduceOption_append, reduceOption_map_some]
  have hsegments : ((send longMessage).map some).countP Option.isNone = 0 :=
    List.countP_eq_zero.2 fun frame hframe => by
      obtain ⟨x, -, rfl⟩ := List.mem_map.1 hframe
      exact Bool.false_ne_true
  obtain ⟨read, hread, hmessages, hcount⟩ := read_back hall hwire hbetween
  refine ⟨read, hread, hmessages, hcount.trans ?_⟩
  rw [List.countP_cons_of_pos rfl, List.countP_append, hsegments, List.countP_singleton]
  rfl

/-- Units that are moved by one. -/
theorem eq_singleton_of_cons_eq_append {x : UInt16} {s l : NSString} (h : x :: s = s ++ l) :
    l = [x] := by
  induction s with
  | nil => exact h.symm
  | cons y s ih =>
    obtain ⟨rfl, hs⟩ := List.cons.inj h
    exact ih hs

/-- What is read from one frame is that frame. -/
theorem eq_of_mem_reads {m data : NSString} (h : data ∈ (reads handleIncomingFrame idle [m]).2) :
    data = m := by
  by_cases hcount : m.length ≤ 4 ∧ 0 < intValue m
  · rw [reads_cons (handleIncomingFrame_count hcount)] at h
    exact absurd h List.not_mem_nil
  · rw [reads_cons (handleIncomingFrame_text hcount)] at h
    exact List.mem_singleton.1 h

/-- A `0` among the segments takes the place of one, and the last is read by itself. -/
theorem reads_nop {first rest : List NSString} {last : NSString}
    (hpos : 0 < (first ++ (rest ++ [last])).length)
    (hfew : (first ++ (rest ++ [last])).length < 10000) :
    (reads handleIncomingFrame idle
      (decimal (first ++ (rest ++ [last])).length :: (first ++ nop ++ (rest ++ [last])))).2 =
      (first ++ [0x30] :: rest).flatten :: (reads handleIncomingFrame idle [last]).2 := by
  have htotal : ((first ++ (rest ++ [last])).length : ℤ) = (first ++ [0x30] :: rest).length := by
    simp
  have hread : reads handleIncomingFrame idle
      (decimal (first ++ (rest ++ [last])).length :: (first ++ [0x30] :: rest)) =
      (idle, [(first ++ [0x30] :: rest).flatten]) := by
    rw [reads_cons (handleIncomingFrame_decimal hpos hfew), htotal, reads_segments (by simp)]
    rfl
  have hframes : decimal (first ++ (rest ++ [last])).length :: (first ++ nop ++ (rest ++ [last])) =
      (decimal (first ++ (rest ++ [last])).length :: (first ++ [0x30] :: rest)) ++ [last] := by
    have hnop : nop = [[0x30]] := by decide
    simp [hnop]
  rw [hframes, reads_append hread]
  rfl

/-- **A `0` in the middle of a message loses it**: it is taken for a segment. -/
theorem notMem_reads_nop {data : NSString} {before after : List NSString} (h : IsMessage data)
    (hcuts : CutsApart data) (hlast : data.getLast? = some 0x7D)
    (hsend : send data = before ++ after) (hbefore : before ≠ []) (hafter : after ≠ []) :
    data ∉ (reads handleIncomingFrame idle (before ++ nop ++ after)).2 := by
  have hlong : kWebsocketMaxFrameSize < data.length := by
    by_contra hshort
    rw [send_of_le h (Nat.not_lt.1 hshort)] at hsend
    have hlength := congrArg List.length hsend
    rw [List.length_singleton, List.length_append] at hlength
    have hpos := List.length_pos_iff.2 hbefore
    have hpos' := List.length_pos_iff.2 hafter
    omega
  have hmany := one_lt_length_splitString splitString_pos hlong
  have hfew := length_splitString_lt splitString_pos hlong h.length_le
  have hall := (canBeConverted_splitString splitString_pos h.text).2 hcuts
  have hflatten : (splitString data kWebsocketMaxFrameSize).flatten = data :=
    flatten_splitString splitString_pos
  rw [send_of_lt hlong, List.filter_eq_self.2 hall] at hsend
  generalize hsegs : splitString data kWebsocketMaxFrameSize = segs at hsend hmany hfew hflatten
  -- the number, the segments before the `0`, those after it, and the last
  obtain ⟨count, first, rfl⟩ := List.exists_cons_of_ne_nil hbefore
  obtain ⟨rest, last, rfl⟩ := (List.eq_nil_or_concat' after).resolve_left hafter
  rw [List.cons_append] at hsend
  obtain ⟨rfl, rfl⟩ := List.cons.inj hsend
  have hread := reads_nop (Nat.zero_lt_of_lt hmany) hfew
  rw [List.cons_append, List.cons_append, hread, List.mem_cons, not_or]
  constructor
  · intro hmem
    have heq := hflatten.trans hmem
    simp only [List.flatten_append, List.flatten_cons, List.flatten_nil, List.append_nil] at heq
    have hmoved := eq_singleton_of_cons_eq_append (List.append_cancel_left heq).symm
    rw [← hflatten, hmoved] at hlast
    simp at hlast
  · intro hmem
    have heq := eq_of_mem_reads hmem
    have hsegment : last ∈ splitString data kWebsocketMaxFrameSize := by simp [hsegs]
    have hle := length_le_of_mem_splitString hsegment
    rw [← heq] at hle
    omega

end InstaGLAM.FirebaseDatabase
