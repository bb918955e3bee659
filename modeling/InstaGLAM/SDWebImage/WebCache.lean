import InstaGLAM.Machinery.Trace
import InstaGLAM.Models.UserPost
import Mathlib.Data.List.Basic
import Mathlib.Data.Nat.Notation
import Mathlib.Logic.Function.Basic

/-!
# SDWebImage/WebCache — how the vendored SDWebImage fills the image views

    sd_setImage ──▸ memory ──miss──▸ disk (on the I/O queue) ──miss──▸ download ──▸ completed block

What the cells call `sd_setImage(with:)` on is a *place* for an image: an image view, or a button in
one control state.  Each call makes an operation, after cancelling the one that the place's entry in
`sd_operationDictionary` names.  An operation passes through blocks that run at moments of their
own; each block looks at `isCancelled` first, and the completed block sets the image of the place
whatever has become of the place meanwhile.

The options are the empty ones the app passes, with the default manager: no transformer, no
transition, no delegate, all stores to memory and disk.  What `dispatch_main_async_safe` is given
runs as part of the block that hands it over.
-/

namespace InstaGLAM.SDWebImage

open Trace

/-! ## Operations, caches and places -/

/-- How far an operation has got: its disk query is on the I/O queue, the answer is on the main
queue, the download is on its way, or the completed block has run. -/
inductive Stage where
  | querying
  | answering (diskImage : Option Picture)
  | downloading
  | finished

/-- `SDWebImageCombinedOperation`, with what its completed block has captured. -/
structure CombinedOperation (ι : Type*) where
  view : ι
  url : URL
  isCancelled : Bool
  stage : Stage

/-- The shared manager with its caches, and what it has to do with the places `ι`: their entries in
`sd_operationDictionary` and their images.  Operations are told apart by the order they were created
in, and a cache key is a `URL`, its own `absoluteString`. -/
structure WebCache (ι : Type*) where
  memoryCache : URL → Option Picture
  diskCache : URL → Option Picture
  diskWrites : List (URL × Picture)
  failedURLs : List URL
  operations : ℕ → Option (CombinedOperation ι)
  created : ℕ
  operationDictionary : ι → Option ℕ
  image : ι → Option Picture

namespace WebCache

variable {ι : Type*} [DecidableEq ι]

/-- Nothing loaded, nothing cached. -/
def initial : WebCache ι := ⟨fun _ => none, fun _ => none, [], [], fun _ => none, 0,
  fun _ => none, fun _ => none⟩

omit [DecidableEq ι] in
/-- Replace an operation. -/
def setOperation (w : WebCache ι) (id : ℕ) (op : CombinedOperation ι) : WebCache ι :=
  { w with operations := Function.update w.operations id (some op) }

/-- `setImage:`, called by the library or by hand. -/
def setImage (w : WebCache ι) (view : ι) (image : Option Picture) : WebCache ι :=
  { w with image := Function.update w.image view image }

omit [DecidableEq ι] in
/-- `-[SDWebImageCombinedOperation cancel]` -/
def cancel (w : WebCache ι) (id : ℕ) : WebCache ι :=
  match w.operations id with
  | none => w
  | some op => w.setOperation id { op with isCancelled := true }

/-- `-sd_cancelImageLoadOperationWithKey:` -/
def cancelImageLoadOperation (w : WebCache ι) (view : ι) : WebCache ι :=
  match w.operationDictionary view with
  | none => w
  | some id =>
    { w.cancel id with
      operationDictionary := Function.update w.operationDictionary view none }

/-- `-sd_setImageLoadOperation:forKey:` -/
def setImageLoadOperation (w : WebCache ι) (id : ℕ) (view : ι) : WebCache ι :=
  let w := w.cancelImageLoadOperation view
  { w with operationDictionary := Function.update w.operationDictionary view (some id) }

/-- The completed block, for `options` without `SDWebImageDelayPlaceholder`: without an image the
place is left as it is. -/
def completed (w : WebCache ι) (view : ι) (image : Option Picture) : WebCache ι :=
  match image with
  | none => w
  | some picture => w.setImage view (some picture)

/-- `callCompletionBlockForOperation:…` and `safelyRemoveOperationFromRunning:`. -/
def finish (w : WebCache ι) (id : ℕ) (op : CombinedOperation ι) (image : Option Picture) :
    WebCache ι :=
  (w.setOperation id { op with stage := .finished }).completed op.view image

/-! ## The way of an operation -/

/-- `callDownloadProcessForOperation:…`: an image from a cache is not downloaded again. -/
def callDownloadProcess (w : WebCache ι) (id : ℕ) (op : CombinedOperation ι)
    (cachedImage : Option Picture) : WebCache ι :=
  match cachedImage with
  | none => w.setOperation id { op with stage := .downloading }
  | some picture => w.finish id op (some picture)

/-- `callCacheProcessForOperation:…`: the memory is queried at once, the disk on the I/O queue. -/
def callCacheProcess (w : WebCache ι) (id : ℕ) (op : CombinedOperation ι) : WebCache ι :=
  match w.memoryCache op.url with
  | some picture => w.callDownloadProcess id op (some picture)
  | none => w.setOperation id { op with stage := .querying }

/-- `loadImageWithURL:…`: an empty `URL`, and one that has failed for good, are not looked for. -/
def loadImage (w : WebCache ι) (view : ι) (url : URL) : WebCache ι :=
  let id := w.created
  let op : CombinedOperation ι := ⟨view, url, false, .querying⟩
  let w := { w with created := id + 1 }
  if url.isEmpty || decide (url ∈ w.failedURLs) then w.finish id op none
  else w.callCacheProcess id op

/-- `sd_internalSetImageWithURL:…` with no placeholder. -/
def sdSetImage (w : WebCache ι) (view : ι) (url : URL) : WebCache ι :=
  let w := (w.cancelImageLoadOperation view).setImage view none
  (w.loadImage view url).setImageLoadOperation w.created view

/-- The disk query runs on the I/O queue; what it finds goes to the memory cache at once, and to the
operation through the main queue. -/
def diskQueried (w : WebCache ι) (id : ℕ) (op : CombinedOperation ι) : WebCache ι :=
  if op.isCancelled then w.finish id op none
  else match w.diskCache op.url with
    | none => w.setOperation id { op with stage := .answering none }
    | some picture =>
      { w.setOperation id { op with stage := .answering (some picture) } with
        memoryCache := Function.update w.memoryCache op.url (some picture) }

/-- The answer of the disk query, on the main queue. -/
def cacheAnswered (w : WebCache ι) (id : ℕ) (op : CombinedOperation ι)
    (diskImage : Option Picture) : WebCache ι :=
  if op.isCancelled then w.finish id op none
  else w.callDownloadProcess id op diskImage

/-- How a download ends: with the picture of its `URL`, or with an error that may block the `URL`
(`shouldBlockFailedURLWithURL:…`). -/
inductive Download where
  | succeeded
  | failed (shouldBlockFailedURL : Bool)
  deriving DecidableEq

/-- The block given to `requestImageWithURL:…`, with `callStoreCacheProcessForOperation:…`. -/
def downloaded (w : WebCache ι) (id : ℕ) (op : CombinedOperation ι) (result : Download) :
    WebCache ι :=
  if op.isCancelled then w.finish id op none
  else match result with
    | .failed shouldBlockFailedURL =>
      let w := w.finish id op none
      if shouldBlockFailedURL then { w with failedURLs := op.url :: w.failedURLs } else w
    | .succeeded =>
      let w := { w with
        memoryCache := Function.update w.memoryCache op.url (some (.loaded op.url))
        diskWrites := w.diskWrites ++ [(op.url, Picture.loaded op.url)] }
      w.finish id op (some (.loaded op.url))

end WebCache

/-! ## Everything that can happen -/

/-- A call from the app, a block that runs, or a cache that drops an entry. -/
inductive Event (ι : Type*) where
  | sdSetImage (view : ι) (url : URL)
  | setImage (view : ι) (image : Option Picture)
  | diskQueried (id : ℕ)
  | cacheAnswered (id : ℕ)
  | downloaded (id : ℕ) (result : WebCache.Download)
  | diskWritten
  | evicted (url : URL)
  | expired (url : URL)

/-- **One step**: blocks run in any order, each in the stage it belongs to. -/
inductive Step {ι : Type*} [DecidableEq ι] : WebCache ι → Event ι → WebCache ι → Prop
  | sdSetImage {w view url} : Step w (.sdSetImage view url) (w.sdSetImage view url)
  | setImage {w view image} : Step w (.setImage view image) (w.setImage view image)
  | diskQueried {w id op} : w.operations id = some op → op.stage = .querying →
      Step w (.diskQueried id) (w.diskQueried id op)
  | cacheAnswered {w id op diskImage} : w.operations id = some op →
      op.stage = .answering diskImage → Step w (.cacheAnswered id) (w.cacheAnswered id op diskImage)
  | downloaded {w id op result} : w.operations id = some op → op.stage = .downloading →
      Step w (.downloaded id result) (w.downloaded id op result)
  | diskWritten {w url picture writes} : w.diskWrites = (url, picture) :: writes →
      Step w .diskWritten
        { w with diskCache := Function.update w.diskCache url (some picture), diskWrites := writes }
  | evicted {w url} :
      Step w (.evicted url) { w with memoryCache := Function.update w.memoryCache url none }
  | expired {w url} :
      Step w (.expired url) { w with diskCache := Function.update w.diskCache url none }

end InstaGLAM.SDWebImage
