import InstaGLAM.FirebaseDatabase.Puts

/-!
# FirebaseDatabase/SetValue — to the app a put is one request with one answer

    connection    setValue ──▸ sent, lost, sent again, served, …  ──▸ completion block
                     ┆                                                     ┆
    managers      setValue ─────────────── Firebase.Serve ───────────────▸ reply

The managers take a `setValue` for a request that Firebase serves at one moment, with the effect and
the answer of `Firebase.Serve`.  The connection below them has it served over and over and at the
wrong time, but with a server that may be relied on no difference is left once all is answered: the
same answers have come in the same order, and the records are those that serving each request once
has made.
-/

namespace InstaGLAM.FirebaseDatabase

open Requests Trace PersistentConnection

/-- The requests of the app and their answers, as the completion blocks have been called: both are
given with the latest first. -/
def setValues (puts : List (Path × UserRecord)) (completions : List (ℕ × Bool)) :
    List (Request × Reply) :=
  List.zipWith
    (fun put x => (.setValue put.1 put.2, if x.2 then Reply.success else Reply.failure))
    puts completions

variable {κ : Type*} {accepts : Path → UserRecord → Bool} {fb : Firebase κ}
  {trace : List (Event Path UserRecord)} {w : World Path UserRecord}

/-- A server that decides by the put alone, on the stores. -/
def setAccepted (accepts : Path → UserRecord → Bool) (fb : Firebase κ) (put : Path × UserRecord) :
    Firebase κ :=
  if accepts put.1 put.2 then fb.setRecord put.1 put.2 else fb

theorem serve_setAccepted [DecidableEq κ] {client : κ} (put : Path × UserRecord) :
    Firebase.Serve client (.setValue put.1 put.2)
      (if accepts put.1 put.2 then .success else .failure) fb (setAccepted accepts fb put) := by
  rw [setAccepted]
  split
  · exact .written rfl
  · exact .notWritten rfl

theorem run_setAccepted [DecidableEq κ] {client : κ} (puts : List (Path × UserRecord)) :
    Run (fun fb e fb' => Firebase.Serve client e.1 e.2 fb fb') fb
      (puts.reverse.map fun put =>
        (.setValue put.1 put.2, if accepts put.1 put.2 then .success else .failure))
      (puts.foldl (setAccepted accepts) fb) := by
  induction puts using List.reverseRecOn with
  | nil => exact .nil
  | append_singleton puts put ih =>
    rw [List.reverse_append, List.foldl_append]
    exact .cons ih (serve_setAccepted put)

/-- Both levels write the same tree. -/
theorem records_setAccepted (put : Path × UserRecord) (key : Path) :
    (setAccepted accepts fb put).records key = applyPut accepts key (fb.records key) put := by
  rw [setAccepted, applyPut]
  split <;> rfl

theorem records_foldl_setAccepted (puts : List (Path × UserRecord)) (key : Path) :
    (puts.foldl (setAccepted accepts) fb).records key =
      puts.foldl (applyPut accepts key) (fb.records key) := by
  induction puts generalizing fb with
  | nil => rfl
  | cons put puts ih =>
    refine ih.trans ?_
    rw [records_setAccepted]
    rfl

theorem frame_foldl_setAccepted (puts : List (Path × UserRecord)) :
    (puts.foldl (setAccepted accepts) fb).accounts = fb.accounts ∧
      (puts.foldl (setAccepted accepts) fb).currentUser = fb.currentUser := by
  induction puts generalizing fb with
  | nil => exact ⟨rfl, rfl⟩
  | cons put puts ih =>
    have hput : (setAccepted accepts fb put).accounts = fb.accounts ∧
        (setAccepted accepts fb put).currentUser = fb.currentUser := by
      rw [setAccepted]
      split <;> exact ⟨rfl, rfl⟩
    exact ⟨ih.1.trans hput.1, ih.2.trans hput.2⟩

/-- The answers of the connection are those of a server that decides by the put alone. -/
theorem setValues_eq {puts : List (Path × UserRecord)} {completions : List (ℕ × Bool)}
    (h : (completions.map Prod.snd).reverse = puts.map fun put => accepts put.1 put.2) :
    setValues puts.reverse completions = puts.reverse.map fun put =>
      (.setValue put.1 put.2, if accepts put.1 put.2 then .success else .failure) := by
  have hstatuses : completions.map Prod.snd =
      puts.reverse.map fun put => accepts put.1 put.2 := by
    rw [← List.reverse_reverse (completions.map Prod.snd), h, List.map_reverse]
  have hzip : List.zipWith (fun put statusOk =>
        (.setValue put.1 put.2, if statusOk then Reply.success else Reply.failure))
      puts.reverse (completions.map Prod.snd) = setValues puts.reverse completions :=
    List.zipWith_map_right
  rw [← hzip, hstatuses, List.zipWith_map_right, List.zipWith_self]

/-- **The managers are right about `setValue`**, with a server that may be relied on: a run of the
connection in which every put has been answered has called the completion blocks with the answers of
a run of `Firebase.Serve`, and has left its records. -/
theorem refines_serve [DecidableEq κ] (client : κ) (fb : Firebase κ)
    (h : Run (StepWith Relied) ⟨initial, fb.records⟩ trace w)
    (halone : ∀ key, Alone accepts key trace)
    (hdone : ∀ index, w.connection.outstandingPuts index = none) :
    ∃ fb', Run (fun fb e fb' => Firebase.Serve client e.1 e.2 fb fb') fb
        (setValues (made trace).reverse w.connection.completions) fb' ∧
      fb'.records = w.records ∧ fb'.accounts = fb.accounts ∧ fb'.currentUser = fb.currentUser := by
  obtain ⟨W, hwindow, hsettled⟩ := settled_of_run h
  have hall : w.connection.completions.length = (made trace).length := by
    obtain ⟨-, hrest, hlength⟩ := hwindow.delivers.inOrder
    have hempty : w.connection.outstanding = [] := List.eq_nil_iff_forall_not_mem.2 fun i hi => by
      obtain ⟨put, hput⟩ := isSome_of_mem_outstanding hi
      exact nomatch (hdone i).symm.trans hput
    rwa [hempty, List.length_nil, Nat.add_zero] at hlength
  have hstatuses := hwindow.statuses (halone []).decided
  rw [hall, List.take_length] at hstatuses
  refine ⟨(made trace).foldl (setAccepted accepts) fb, ?_, ?_, frame_foldl_setAccepted _⟩
  · rw [setValues_eq hstatuses]
    exact run_setAccepted _
  · funext key
    rw [records_foldl_setAccepted]
    exact (hwindow.record_eq hsettled (halone key) fun index put hput =>
      nomatch (hdone index).symm.trans hput).symm

theorem refines_serve_nestedPuts : ∃ w fb',
    Run (StepWith Relied) ⟨initial, fun _ => none⟩ nestedPuts w ∧
    Run (fun fb e fb' => Firebase.Serve () e.1 e.2 fb fb')
      ⟨fun _ => none, fun _ => none, fun _ => none⟩
      [(.setValue putAbove.1 putAbove.2, .success), (.setValue putNested.1 putNested.2, .success)]
      fb' ∧
    fb'.records = w.records := by
  obtain ⟨w, hrun, hcompletions, hdone⟩ := run_nestedPuts
  have halone : ∀ key, Alone (fun _ _ => true) key nestedPuts := fun key =>
    ⟨by simp [nestedPuts, lost], by simp [nestedPuts, lost]⟩
  obtain ⟨fb', hserve, hrecords, -⟩ :=
    refines_serve () ⟨fun _ => none, fun _ => none, fun _ => none⟩ hrun halone hdone
  rw [hcompletions] at hserve
  exact ⟨w, fb', hrun, hserve, hrecords⟩

end InstaGLAM.FirebaseDatabase
