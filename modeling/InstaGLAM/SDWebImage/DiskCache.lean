import InstaGLAM.SDWebImage.WebCache
import Mathlib.Order.Basic

/-!
# SDWebImage/DiskCache — what the clean-up takes from the disk

    files ──▸ expired ─────────────────────────────────▸ removed
         └──▸ the rest, if it is too large ──oldest───▸ removed, until below half of the limit

`removeExpiredData` runs when the app goes to the background or ends.  It reads all files once, with
their dates and sizes, and then removes them one by one; a file that cannot be removed stays and is
passed over.  To the rest of the library what it removes is an entry that has expired.
-/

namespace InstaGLAM.SDWebImage

/-- The `resourceValues` of a file; the date is the one that `diskCacheExpireType` names. -/
structure ResourceValues (δ : Type*) where
  isDirectory : Bool
  contentDate : δ
  totalFileAllocatedSize : ℕ

/-- The two limits of `SDImageCacheConfig`: the oldest date that is not expired comes from
`maxDiskAge`, and a size of zero is none. -/
structure DiskLimits (δ : Type*) where
  expirationDate : Option δ
  maxDiskSize : ℕ

namespace SDDiskCache

variable {α δ : Type*}

/-- The sizes of some files together. -/
def totalSize : List (α × ResourceValues δ) → ℕ
  | [] => 0
  | file :: files => file.2.totalFileAllocatedSize + totalSize files

@[simp] theorem totalSize_nil : totalSize ([] : List (α × ResourceValues δ)) = 0 := rfl

@[simp] theorem totalSize_cons (file : α × ResourceValues δ)
    (files : List (α × ResourceValues δ)) :
    totalSize (file :: files) = file.2.totalFileAllocatedSize + totalSize files := rfl

@[simp] theorem totalSize_append (files files' : List (α × ResourceValues δ)) :
    totalSize (files ++ files') = totalSize files + totalSize files' := by
  induction files with
  | nil => exact (Nat.zero_add _).symm
  | cons file files ih => rw [List.cons_append, totalSize_cons, totalSize_cons, ih, Nat.add_assoc]

theorem totalSize_perm {files files' : List (α × ResourceValues δ)} (h : files.Perm files') :
    totalSize files = totalSize files' := by
  induction h with
  | nil => rfl
  | cons file _ ih => rw [totalSize_cons, totalSize_cons, ih]
  | swap file file' files => exact Nat.add_left_comm _ _ _
  | trans _ _ ih ih' => exact ih.trans ih'

/-! ## The clean-up -/

variable [LinearOrder δ]

/-- What the enumeration has collected.  The sizes are natural numbers where the source adds
`NSUInteger`s: it is the source as long as the sizes together stay below `2 ^ 64`. -/
structure Enumerated (α δ : Type*) where
  urlsToDelete : List (α × ResourceValues δ)
  cacheFiles : List (α × ResourceValues δ)
  currentCacheSize : ℕ

/-- Not later than the date of expiration, if there is one. -/
def isExpired (expirationDate : Option δ) (contentDate : δ) : Bool :=
  expirationDate.any fun date => contentDate ≤ date

/-- One file of the enumeration; there are no values if they cannot be read. -/
def visit (expirationDate : Option δ) (e : Enumerated α δ) :
    α × Option (ResourceValues δ) → Enumerated α δ
  | (_, none) => e
  | (fileURL, some values) =>
    if values.isDirectory then e
    else if isExpired expirationDate values.contentDate then
      { e with urlsToDelete := e.urlsToDelete ++ [(fileURL, values)] }
    else { e with
      currentCacheSize := e.currentCacheSize + values.totalFileAllocatedSize
      cacheFiles := e.cacheFiles ++ [(fileURL, values)] }

def enumerate (expirationDate : Option δ) (files : List (α × Option (ResourceValues δ))) :
    Enumerated α δ :=
  files.foldl (visit expirationDate) ⟨[], [], 0⟩

/-- The loop over the sorted files, up to its `break`: the files removed, and the size that is then
left. -/
def removeOldest (removes : α → Bool) (desiredCacheSize : ℕ) :
    List (α × ResourceValues δ) → ℕ → List (α × ResourceValues δ) × ℕ
  | [], currentCacheSize => ([], currentCacheSize)
  | file :: sortedFiles, currentCacheSize =>
    if removes file.1 then
      let currentCacheSize := currentCacheSize - file.2.totalFileAllocatedSize
      if currentCacheSize < desiredCacheSize then ([file], currentCacheSize)
      else
        let rest := removeOldest removes desiredCacheSize sortedFiles currentCacheSize
        (file :: rest.1, rest.2)
    else removeOldest removes desiredCacheSize sortedFiles currentCacheSize

/-- `-removeExpiredData`: the files removed.  `removes` says of which files `removeItemAtURL:error:`
can get rid, and `sort` is `keysSortedByValueWithOptions:usingComparator:` by date. -/
def removeExpiredData (limits : DiskLimits δ) (removes : α → Bool)
    (sort : List (α × ResourceValues δ) → List (α × ResourceValues δ))
    (files : List (α × Option (ResourceValues δ))) : List (α × ResourceValues δ) :=
  let e := enumerate limits.expirationDate files
  e.urlsToDelete.filter (fun file => removes file.1) ++
    if 0 < limits.maxDiskSize ∧ limits.maxDiskSize < e.currentCacheSize then
      (removeOldest removes (limits.maxDiskSize / 2) (sort e.cacheFiles) e.currentCacheSize).1
    else []

/-! ## The enumeration -/

/-- The files that are no directories and whose values can be read. -/
def readable (files : List (α × Option (ResourceValues δ))) : List (α × ResourceValues δ) :=
  files.filterMap fun file => file.2.bind fun values =>
    if values.isDirectory then none else some (file.1, values)

/-- The readable files that are expired, and the others. -/
def expired (date : Option δ) (files : List (α × Option (ResourceValues δ))) :
    List (α × ResourceValues δ) :=
  (readable files).filter fun file => isExpired date file.2.contentDate

def unexpired (date : Option δ) (files : List (α × Option (ResourceValues δ))) :
    List (α × ResourceValues δ) :=
  (readable files).filter fun file => !isExpired date file.2.contentDate

/-- **The enumeration** tells the expired files from the others and adds up the sizes of these. -/
theorem enumerate_eq (date : Option δ) (files : List (α × Option (ResourceValues δ))) :
    enumerate date files =
      ⟨expired date files, unexpired date files, totalSize (unexpired date files)⟩ := by
  have hloop : ∀ e : Enumerated α δ, files.foldl (visit date) e =
      ⟨e.urlsToDelete ++ expired date files, e.cacheFiles ++ unexpired date files,
        e.currentCacheSize + totalSize (unexpired date files)⟩ := by
    induction files with
    | nil => intro e; simp [expired, unexpired, readable]
    | cons file files ih =>
      obtain ⟨fileURL, values⟩ := file
      intro e
      rw [List.foldl_cons, ih]
      cases values with
      | none => rfl
      | some values =>
        by_cases hdirectory : values.isDirectory = true
        · simp [visit, expired, unexpired, readable, hdirectory]
        · by_cases hexpired : isExpired date values.contentDate = true
          · simp [visit, expired, unexpired, readable, hdirectory, hexpired]
          · simp [visit, expired, unexpired, readable, hdirectory, hexpired, Nat.add_assoc]
  rw [enumerate, hloop]
  simp

/-! ## The loop -/

/-- What the loop removes, it removes oldest first, until the size is below what is desired or
nothing is left that can be removed, and no sooner. -/
structure Removed (removes : α → Bool) (desired : ℕ) (files : List (α × ResourceValues δ))
    (size : ℕ) (removed kept : List (α × ResourceValues δ)) (left : ℕ) : Prop where
  perm : files.Perm (removed ++ kept)
  left_eq : left + totalSize removed = size
  removable : ∀ f ∈ removed, removes f.1 = true
  oldest : ∀ f ∈ removed, ∀ g ∈ kept, removes g.1 = true → f.2.contentDate ≤ g.2.contentDate
  enough : left < desired ∨ ∀ g ∈ kept, removes g.1 = false
  needed : ∀ first last, removed = first ++ [last] →
    desired ≤ left + last.2.totalFileAllocatedSize

theorem removed_removeOldest (removes : α → Bool) (desired size : ℕ)
    {files : List (α × ResourceValues δ)}
    (hsorted : files.Pairwise fun f g => f.2.contentDate ≤ g.2.contentDate)
    (hsize : totalSize files ≤ size) (hdesired : desired ≤ size) :
    ∃ kept, Removed removes desired files size (removeOldest removes desired files size).1 kept
      (removeOldest removes desired files size).2 := by
  induction files generalizing size with
  | nil =>
    exact ⟨[], .nil, rfl, by simp [removeOldest], by simp [removeOldest], Or.inr (by simp),
      by simp [removeOldest]⟩
  | cons file files ih =>
    obtain ⟨hfirst, hsorted⟩ := List.pairwise_cons.1 hsorted
    rw [totalSize_cons] at hsize
    by_cases hremoves : removes file.1 = true
    · by_cases henough : size - file.2.totalFileAllocatedSize < desired
      · have heq : removeOldest removes desired (file :: files) size =
            ([file], size - file.2.totalFileAllocatedSize) := by
          rw [removeOldest, if_pos hremoves, if_pos henough]
        rw [heq]
        refine ⟨files, .refl _, ?_, ?_, ?_, Or.inl henough, ?_⟩
        · simp only [totalSize_cons, totalSize_nil]
          omega
        · exact fun f hf => List.mem_singleton.1 hf ▸ hremoves
        · exact fun f hf g hg _ => List.mem_singleton.1 hf ▸ hfirst g hg
        · intro first last hlast
          obtain ⟨-, rfl⟩ : first = [] ∧ last = file := by
            cases first <;> simp_all
          omega
      · obtain ⟨kept, hrest⟩ := ih (size - file.2.totalFileAllocatedSize) hsorted
          (by omega) (Nat.not_lt.1 henough)
        have heq : removeOldest removes desired (file :: files) size =
            (file :: (removeOldest removes desired files
              (size - file.2.totalFileAllocatedSize)).1,
            (removeOldest removes desired files (size - file.2.totalFileAllocatedSize)).2) := by
          rw [removeOldest, if_pos hremoves, if_neg henough]
        rw [heq]
        have hleft := hrest.left_eq
        refine ⟨kept, hrest.perm.cons file, ?_, ?_, ?_, hrest.enough, ?_⟩
        · rw [totalSize_cons]
          omega
        · exact List.forall_mem_cons.2 ⟨hremoves, hrest.removable⟩
        · refine List.forall_mem_cons.2 ⟨fun g hg _ => hfirst g ?_, hrest.oldest⟩
          exact hrest.perm.mem_iff.2 (List.mem_append_right _ hg)
        · intro first last hlast
          cases first with
          | nil =>
            obtain ⟨rfl, hnone⟩ := List.cons.inj hlast
            rw [hnone, totalSize_nil] at hleft
            omega
          | cons f first => exact hrest.needed first last (List.cons.inj hlast).2
    · obtain ⟨kept, hrest⟩ := ih size hsorted (by omega) hdesired
      rw [removeOldest, if_neg hremoves]
      refine ⟨file :: kept, (hrest.perm.cons file).trans List.perm_middle.symm, hrest.left_eq,
        hrest.removable, fun f hf => ?_, hrest.enough.imp_right fun hnone => ?_, hrest.needed⟩
      · refine List.forall_mem_cons.2 ⟨fun hfile => absurd hfile hremoves, hrest.oldest f hf⟩
      · exact List.forall_mem_cons.2 ⟨Bool.eq_false_of_not_eq_true hremoves, hnone⟩

/-! ## What is removed -/

/-- `keysSortedByValueWithOptions:usingComparator:` gives all files, the oldest first. -/
structure SortsByDate
    (sort : List (α × ResourceValues δ) → List (α × ResourceValues δ)) : Prop where
  perm : ∀ files, (sort files).Perm files
  sorted : ∀ files, (sort files).Pairwise fun f g => f.2.contentDate ≤ g.2.contentDate

variable {limits : DiskLimits δ} {removes : α → Bool}
  {sort : List (α × ResourceValues δ) → List (α × ResourceValues δ)}
  {files : List (α × Option (ResourceValues δ))}

/-- Within the limit of size, only expired files go. -/
theorem removeExpiredData_of_le (h : limits.maxDiskSize = 0 ∨
      totalSize (unexpired limits.expirationDate files) ≤ limits.maxDiskSize) :
    removeExpiredData limits removes sort files =
      (expired limits.expirationDate files).filter fun file => removes file.1 := by
  have hlimit : ¬(0 < limits.maxDiskSize ∧
      limits.maxDiskSize < totalSize (unexpired limits.expirationDate files)) := by omega
  simp only [removeExpiredData, enumerate_eq]
  rw [if_neg hlimit, List.append_nil]

/-- Beyond it the loop runs over the others. -/
theorem removeExpiredData_of_lt (removes : α → Bool) (hsort : SortsByDate sort)
    (hmax : 0 < limits.maxDiskSize)
    (h : limits.maxDiskSize < totalSize (unexpired limits.expirationDate files)) :
    ∃ oldest kept, removeExpiredData limits removes sort files =
        ((expired limits.expirationDate files).filter fun file => removes file.1) ++ oldest ∧
      (unexpired limits.expirationDate files).Perm (oldest ++ kept) ∧
      Removed removes (limits.maxDiskSize / 2) (sort (unexpired limits.expirationDate files))
        (totalSize (unexpired limits.expirationDate files)) oldest kept (totalSize kept) := by
  have hperm := hsort.perm (unexpired limits.expirationDate files)
  obtain ⟨kept, hremoved⟩ := removed_removeOldest removes
    (limits.maxDiskSize / 2) (totalSize (unexpired limits.expirationDate files))
    (hsort.sorted (unexpired limits.expirationDate files)) (totalSize_perm hperm).le (by omega)
  have hleft := hremoved.left_eq
  have htotal := totalSize_perm (hperm.symm.trans hremoved.perm)
  rw [totalSize_append] at htotal
  have hkept : (removeOldest removes (limits.maxDiskSize / 2)
    (sort (unexpired limits.expirationDate files))
    (totalSize (unexpired limits.expirationDate files))).2 = totalSize kept := by omega
  refine ⟨_, kept, ?_, hperm.symm.trans hremoved.perm, hkept ▸ hremoved⟩
  simp only [removeExpiredData, enumerate_eq]
  exact congrArg _ (if_pos ⟨hmax, h⟩)

/-- **What the clean-up removes**: all expired files, and of the others none while their sizes are
within the limit; beyond it the oldest of them, until those left take less than half of the limit or
cannot be removed, and no more than that takes. -/
theorem removeExpiredData_removes (limits : DiskLimits δ) (removes : α → Bool)
    (hsort : SortsByDate sort) (files : List (α × Option (ResourceValues δ))) :
    ∃ oldest kept, removeExpiredData limits removes sort files =
        ((expired limits.expirationDate files).filter fun file => removes file.1) ++ oldest ∧
      (unexpired limits.expirationDate files).Perm (oldest ++ kept) ∧
      (limits.maxDiskSize = 0 ∨
          totalSize (unexpired limits.expirationDate files) ≤ limits.maxDiskSize → oldest = []) ∧
      (∀ f ∈ oldest, removes f.1 = true ∧
        ∀ g ∈ kept, removes g.1 = true → f.2.contentDate ≤ g.2.contentDate) ∧
      (0 < limits.maxDiskSize →
        limits.maxDiskSize < totalSize (unexpired limits.expirationDate files) →
        totalSize kept < limits.maxDiskSize / 2 ∨ ∀ g ∈ kept, removes g.1 = false) ∧
      ∀ first last, oldest = first ++ [last] →
        limits.maxDiskSize / 2 ≤ totalSize kept + last.2.totalFileAllocatedSize := by
  by_cases h : limits.maxDiskSize = 0 ∨
      totalSize (unexpired limits.expirationDate files) ≤ limits.maxDiskSize
  · refine ⟨[], _, ?_, .refl _, fun _ => rfl, by simp, fun _ _ => by omega, by simp⟩
    rw [removeExpiredData_of_le h, List.append_nil]
  · obtain ⟨hmax, hlt⟩ := not_or.1 h
    obtain ⟨oldest, kept, heq, hperm, hremoved⟩ := removeExpiredData_of_lt removes
      hsort (Nat.pos_of_ne_zero hmax) (Nat.not_le.1 hlt)
    exact ⟨oldest, kept, heq, hperm, fun hle => absurd hle h,
      fun f hf => ⟨hremoved.removable f hf, hremoved.oldest f hf⟩, fun _ _ => hremoved.enough,
      hremoved.needed⟩

/-- Sorting by date, as a list is sorted. -/
def byDate (files : List (α × ResourceValues δ)) : List (α × ResourceValues δ) :=
  files.mergeSort fun f g => decide (f.2.contentDate ≤ g.2.contentDate)

theorem sortsByDate_byDate : SortsByDate (byDate (α := α) (δ := δ)) where
  perm files := files.mergeSort_perm _
  sorted files := by
    have htrans : ∀ f g h : α × ResourceValues δ,
        decide (f.2.contentDate ≤ g.2.contentDate) → decide (g.2.contentDate ≤ h.2.contentDate) →
        decide (f.2.contentDate ≤ h.2.contentDate) := fun f g h hfg hgh =>
      decide_eq_true ((of_decide_eq_true hfg).trans (of_decide_eq_true hgh))
    have htotal : ∀ f g : α × ResourceValues δ, (decide (f.2.contentDate ≤ g.2.contentDate) ||
        decide (g.2.contentDate ≤ f.2.contentDate)) = true := fun f g => by
      rw [Bool.or_eq_true, decide_eq_true_eq, decide_eq_true_eq]
      exact le_total _ _
    exact (List.pairwise_mergeSort htrans htotal files).imp of_decide_eq_true

/-- An expired picture, and two that are too large together. -/
def pictures : List (String × Option (ResourceValues ℕ)) :=
  [("old", some ⟨false, 5, 40⟩), ("kept", some ⟨false, 30, 40⟩), ("icons", some ⟨true, 1, 0⟩),
    ("next", some ⟨false, 20, 70⟩)]

theorem removeExpiredData_removes_pictures :
    ∃ oldest kept : List (String × ResourceValues ℕ),
      removeExpiredData ⟨some 10, 100⟩ (fun _ => true) byDate pictures =
        [("old", ⟨false, 5, 40⟩)] ++ oldest ∧ totalSize kept < 50 := by
  obtain ⟨oldest, kept, heq, -, -, -, henough, -⟩ :=
    removeExpiredData_removes ⟨some 10, 100⟩ (fun _ => true) sortsByDate_byDate pictures
  refine ⟨oldest, kept, heq, (henough (by decide) (by decide)).elim id fun hnone => ?_⟩
  have hempty : kept = [] := List.eq_nil_iff_forall_not_mem.2 fun g hg =>
    absurd (hnone g hg) (by decide)
  rw [hempty, totalSize_nil]
  decide

/-! ## To the rest of the library -/

omit [LinearOrder δ] in
/-- **A clean-up is a run of entries expiring**: nothing but the disk cache is touched. -/
theorem run_expired {ι : Type*} [DecidableEq ι] (key : α → URL)
    (removed : List (α × ResourceValues δ)) (w : WebCache ι) :
    Trace.Run Step w (removed.reverse.map fun file => .expired (key file.1))
      { w with diskCache := fun url =>
          if url ∈ removed.map fun file => key file.1 then none else w.diskCache url } := by
  induction removed generalizing w with
  | nil => exact .nil
  | cons file removed ih =>
    have hfirst : Trace.Run Step w [.expired (key file.1)]
        { w with diskCache := Function.update w.diskCache (key file.1) none } := .cons .nil .expired
    have hcache : (fun url => if url ∈ (file :: removed).map fun file => key file.1 then none
          else w.diskCache url) =
        fun url => if url ∈ removed.map fun file => key file.1 then none
          else Function.update w.diskCache (key file.1) none url := by
      funext url
      rw [List.map_cons]
      by_cases hurl : url = key file.1
      · rw [if_pos (hurl ▸ List.mem_cons_self), hurl, Function.update_self, ite_self]
      · rw [Function.update_of_ne hurl]
        exact if_congr (List.mem_cons.trans (or_iff_right hurl)) rfl rfl
    rw [List.reverse_cons, List.map_append, hcache]
    exact hfirst.append (ih _)

end SDDiskCache

end InstaGLAM.SDWebImage
