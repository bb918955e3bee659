import InstaGLAM.Machinery.TableView
import InstaGLAM.Models.UserPost

/-!
# Views/FeedCells — the four cells of the feed

The cells of `Views/Cells/Home Feed`, with what they show, and the registry that both the home feed
and the post screen dequeue them from.  `configuredWith` is not in the code: it remembers what a
cell has been configured with since it was made or last reset.
-/

namespace InstaGLAM

open TableView

/-! ## The header -/

structure FeedPostHeaderTableViewCell where
  usernameLabel : Option String
  profilePhotoImage : Option Picture
  delegate : Bool
  configuredWith : Option User
  deriving DecidableEq

namespace FeedPostHeaderTableViewCell

/-- `init(style:reuseIdentifier:)` -/
def made : FeedPostHeaderTableViewCell := ⟨none, none, false, none⟩

/-- `configure(with:)` -/
def configure (c : FeedPostHeaderTableViewCell) (model : User) : FeedPostHeaderTableViewCell :=
  { c with usernameLabel := some model.username, profilePhotoImage := some (.named "test")
           configuredWith := some model }

/-- `prepareForReuse()` -/
def prepareForReuse (c : FeedPostHeaderTableViewCell) : FeedPostHeaderTableViewCell :=
  { c with usernameLabel := none, profilePhotoImage := none, configuredWith := none }

end FeedPostHeaderTableViewCell

/-! ## The post -/

structure FeedPostTableViewCell where
  postImageView : Option Picture
  configuredWith : Option UserPost
  deriving DecidableEq

namespace FeedPostTableViewCell

/-- `configure(with:)`: every post gets the same picture. -/
def configure (c : FeedPostTableViewCell) (post : UserPost) : FeedPostTableViewCell :=
  { c with postImageView := some (.named "test"), configuredWith := some post }

/-- The post each cell carries, made at three moments. -/
def post (dates : Date × Date × Date) : UserPost :=
  mockPost "@ruth" dates.1 dates.2.1 dates.2.2

/-- `init(style:reuseIdentifier:)`, which configures the cell with that post. -/
def made (dates : Date × Date × Date) : FeedPostTableViewCell :=
  configure ⟨none, none⟩ (post dates)

/-- `prepareForReuse()` -/
def prepareForReuse (_c : FeedPostTableViewCell) : FeedPostTableViewCell := ⟨none, none⟩

end FeedPostTableViewCell

/-! ## All four -/

/-- The reuse identifiers. -/
inductive FeedCellIdentifier where
  | header | post | actions | general
  deriving DecidableEq

/-- A cell of the feed; `plain` is a bare `UITableViewCell`. -/
inductive FeedCell where
  | header (c : FeedPostHeaderTableViewCell)
  | post (c : FeedPostTableViewCell)
  | actions (delegate : Bool)
  | general
  | plain
  deriving DecidableEq

/-- The text and the picture a cell shows. -/
def FeedCell.content : FeedCell → Option String × Option Picture
  | .header c => (c.usernameLabel, c.profilePhotoImage)
  | .post c => (none, c.postImageView)
  | .actions _ | .general | .plain => (none, none)

/-- The cells both tables register. -/
def feedCells : CellRegistry (Date × Date × Date) FeedCellIdentifier FeedCell where
  make
    | _, .header => .header .made
    | dates, .post => .post (.made dates)
    | _, .actions => .actions false
    | _, .general => .general
  prepareForReuse
    | .header c => .header c.prepareForReuse
    | .post c => .post c.prepareForReuse
    | c => c
  identifier
    | .header _ => some .header
    | .post _ => some .post
    | .actions _ => some .actions
    | .general => some .general
    | .plain => none

/-! ## A cell of a class -/

section Class

variable {c : FeedCell}

theorem header_of_identifier (h : feedCells.identifier c = some .header) :
    ∃ cell, c = .header cell := by
  cases c with
  | header cell => exact ⟨cell, rfl⟩
  | _ => exact nomatch h

theorem post_of_identifier (h : feedCells.identifier c = some .post) : ∃ cell, c = .post cell := by
  cases c with
  | post cell => exact ⟨cell, rfl⟩
  | _ => exact nomatch h

theorem actions_of_identifier (h : feedCells.identifier c = some .actions) :
    ∃ delegate, c = .actions delegate := by
  cases c with
  | actions delegate => exact ⟨delegate, rfl⟩
  | _ => exact nomatch h

theorem general_of_identifier (h : feedCells.identifier c = some .general) : c = .general := by
  cases c with
  | general => rfl
  | _ => exact nomatch h

end Class

variable {pool : List FeedCell} {d : FeedCellIdentifier → FeedCell}

/-- A dequeued header is one, and shows nothing yet. -/
theorem dequeue_header (hd : Dequeues feedCells pool d) :
    ∃ delegate, d .header = .header ⟨none, none, delegate, none⟩ := by
  rcases hd .header with ⟨_, h⟩ | ⟨c, -, hid, h⟩
  · exact ⟨_, h⟩
  · obtain ⟨cell, rfl⟩ := header_of_identifier hid
    exact ⟨cell.delegate, h⟩

/-- A dequeued post is a new one, configured with the post it carries, or shows nothing. -/
theorem dequeue_post (hd : Dequeues feedCells pool d) :
    (∃ dates, d .post = .post (.made dates)) ∨ d .post = .post ⟨none, none⟩ := by
  rcases hd .post with h | ⟨c, -, hid, h⟩
  · exact Or.inl h
  · obtain ⟨cell, rfl⟩ := post_of_identifier hid
    exact Or.inr h

end InstaGLAM
