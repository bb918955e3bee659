import InstaGLAM.Machinery.ImageSlot
import InstaGLAM.Machinery.Recycling
import InstaGLAM.Models.UserPost
import Mathlib.Data.Rat.Defs

/-!
# Views/FollowCells — the two cells with a follow button

    made ──configure m₁──▸ … ──prepareForReuse──▸ ──configure m₂──▸ …

`UserFollowTableViewCell` sets the whole of its button whenever it is configured, but for the colour
of a border that is not there.  `NotificationFollowEventTableViewCell` leaves the background alone
when it says Unfollow, and there it is `prepareForReuse` that has cleared it.  Either way a recycled
cell looks like a new one (`followCells_sameAsNew`).
-/

namespace InstaGLAM

open ImageSlot Recycling

/-! ## The button -/

/-- What is set on a follow button; the border is there, in its colour, when it has a width. -/
structure FollowButton where
  title : Option String
  titleColor : Option UIColor
  backgroundColor : Option UIColor
  borderWidth : ℚ
  borderColor : UIColor
  deriving DecidableEq

namespace FollowButton

/-- `UIButton()`: a layer's border is black, and of no width. -/
def made : FollowButton := ⟨none, none, none, 0, .black⟩

/-- What `prepareForReuse` of either cell does to it. -/
def cleared (b : FollowButton) : FollowButton :=
  { b with title := none, backgroundColor := none, borderWidth := 0 }

/-- What can be seen of a button: its border colour only if it has a border. -/
def look (b : FollowButton) :
    Option String × Option UIColor × Option UIColor × ℚ × Option UIColor :=
  (b.title, b.titleColor, b.backgroundColor, b.borderWidth,
    if b.borderWidth = 0 then none else some b.borderColor)

end FollowButton

/-! ## A user in a list -/

structure UserFollowTableViewCell where
  model : Option UserRelationship
  profileImage : Option Picture
  nameLabel : Option String
  usernameLabel : Option String
  followButton : FollowButton

namespace UserFollowTableViewCell

/-- `init(style:reuseIdentifier:)` -/
def made : UserFollowTableViewCell := ⟨none, none, some "Mary Bisi", some "@marybisi", .made⟩

/-- `prepareForReuse()` -/
def prepareForReuse (c : UserFollowTableViewCell) : UserFollowTableViewCell :=
  { c with profileImage := none, nameLabel := none, usernameLabel := none
           followButton := c.followButton.cleared }

/-- `configure(with:)` -/
def configure (c : UserFollowTableViewCell) (model : UserRelationship) : UserFollowTableViewCell :=
  let c := { c with model := some model, nameLabel := some model.name
                    usernameLabel := some model.username }
  match model.type with
  | .following =>
    { c with followButton :=
        { c.followButton with
          title := some "Unfollow", titleColor := some .label
          backgroundColor := some .secondarySystemBackground
          borderWidth := 1, borderColor := .systemGray6 } }
  | .notFollowing =>
    { c with followButton :=
        { c.followButton with
          title := some "Follow", titleColor := some .white
          backgroundColor := some .link, borderWidth := 0 } }

/-- `didTapFollowButton()`: what the delegate is handed. -/
def didTapFollowButton (c : UserFollowTableViewCell) : Option UserRelationship := c.model

/-- The cell as a class of cells; all else that happens to one is that its button is tapped. -/
def cells : CellClass UserRelationship Unit UserFollowTableViewCell :=
  ⟨made, configure, prepareForReuse, fun c _ => c⟩

/-- The labels and the button of a cell. -/
def look (c : UserFollowTableViewCell) :=
  ([c.nameLabel, c.usernameLabel], c.followButton.look)

variable {model : UserRelationship} {history : List (Event UserRelationship Unit)}

/-- `configure` sets everything that can be seen, and what a tap hands over. -/
theorem look_configure (c : UserFollowTableViewCell) (model : UserRelationship) :
    ((c.configure model).look, (c.configure model).didTapFollowButton)
      = ((made.configure model).look, some model) := by
  rcases model with ⟨name, username, _ | _⟩ <;> rfl

theorem look_after (h : Prepared (.configure model :: history)) (taps : List Unit) :
    let c := cells.after (taps.map .other ++ .configure model :: history)
    (c.look, c.didTapFollowButton) = ((made.configure model).look, some model) :=
  (look_after_configure (C := cells) (f := fun c => (c.look, c.didTapFollowButton))
    (B := fun _ => True) trivial (fun _ => trivial) (fun _ _ _ => trivial)
    (fun c _ => (look_configure c model).trans (look_configure made model).symm)
    (fun _ _ => rfl) h taps).trans (look_configure made model)

/-- The button says Unfollow exactly when the user is being followed. -/
theorem title_made (model : UserRelationship) :
    (made.configure model).look.2.1 = some "Unfollow" ↔ model.type = .following := by
  rcases model with ⟨name, username, _ | _⟩ <;> simp [configure, look, FollowButton.look]

end UserFollowTableViewCell

/-! ## A follow among the notifications -/

structure NotificationFollowEventTableViewCell where
  model : Option UserNotification
  detailsLabel : Option String
  profileImageView : Slot URL Picture
  followButton : FollowButton

/-- What else can happen to the cell. -/
inductive FollowCellEvent where
  | tapped
  | completed (url : URL) (succeeded : Bool)

namespace NotificationFollowEventTableViewCell

/-- `init(style:reuseIdentifier:)` -/
def made : NotificationFollowEventTableViewCell :=
  ⟨none, some "@sam followed you", ⟨none, none⟩, .made⟩

/-- `prepareForReuse()` -/
def prepareForReuse (c : NotificationFollowEventTableViewCell) :
    NotificationFollowEventTableViewCell :=
  { c with followButton := c.followButton.cleared, detailsLabel := none
           profileImageView := c.profileImageView.setImage none }

/-- `configure(with:)` -/
def configure (c : NotificationFollowEventTableViewCell) (model : UserNotification) :
    NotificationFollowEventTableViewCell :=
  let c := { c with model := some model, detailsLabel := some model.details
                    profileImageView := c.profileImageView.set model.user.profilePhoto }
  match model.type with
  | .like _ => c
  | .follow .following =>
    { c with followButton :=
        { c.followButton with
          title := some "Unfollow", titleColor := some .label
          borderWidth := 1, borderColor := .secondaryLabel } }
  | .follow .notFollowing =>
    { c with followButton :=
        { c.followButton with
          title := some "Follow", titleColor := some .white
          borderWidth := 0, backgroundColor := some .link } }

/-- `didTapFollowBtn()`: what the delegate is handed. -/
def didTapFollowBtn (c : NotificationFollowEventTableViewCell) : Option UserNotification := c.model

/-- A load of the profile photo completes, or the button is tapped. -/
def other (c : NotificationFollowEventTableViewCell) :
    FollowCellEvent → NotificationFollowEventTableViewCell
  | .tapped => c
  | .completed url succeeded =>
    let result := if succeeded then some (Picture.loaded url) else none
    { c with profileImageView := c.profileImageView.complete url result }

/-- The cell as a class of cells. -/
def cells : CellClass UserNotification FollowCellEvent NotificationFollowEventTableViewCell :=
  ⟨made, configure, prepareForReuse, other⟩

/-- The label and the button of a cell. -/
def look (c : NotificationFollowEventTableViewCell) :=
  ([c.detailsLabel], c.followButton.look)

/-- The button has no background: all `configure` needs to find. -/
def Blank (c : NotificationFollowEventTableViewCell) : Prop :=
  c.followButton.backgroundColor = none

variable {c : NotificationFollowEventTableViewCell} {details : String} {user : User}
  {state : FollowState} {history : List (Event UserNotification FollowCellEvent)}

/-- A tap or a load leaves all but the profile photo. -/
theorem other_eq (c : NotificationFollowEventTableViewCell) (e : FollowCellEvent) :
    ∃ photo, other c e = { c with profileImageView := photo } := by
  rcases e with _ | ⟨url, succeeded⟩
  · exact ⟨_, rfl⟩
  · exact ⟨_, rfl⟩

/-- `configure` with a follow sets everything that can be seen, but for the background. -/
theorem look_configure (hc : c.Blank) :
    ((c.configure ⟨.follow state, details, user⟩).look,
        (c.configure ⟨.follow state, details, user⟩).didTapFollowBtn)
      = ((made.configure ⟨.follow state, details, user⟩).look,
        some ⟨.follow state, details, user⟩) := by
  cases state with
  | following =>
    have hback : c.followButton.backgroundColor = made.followButton.backgroundColor := hc
    simp only [look, configure, FollowButton.look, hback]
    rfl
  | notFollowing => rfl

theorem look_after (h : Prepared (.configure ⟨.follow state, details, user⟩ :: history))
    (es : List FollowCellEvent) :
    let c := cells.after (es.map .other ++ .configure ⟨.follow state, details, user⟩ :: history)
    (c.look, c.didTapFollowBtn) = ((made.configure ⟨.follow state, details, user⟩).look,
      some ⟨.follow state, details, user⟩) := by
  have hother : ∀ c e, Blank c → Blank (other c e) := fun c e hc => by
    obtain ⟨photo, heq⟩ := other_eq c e
    rw [heq]
    exact hc
  have hkeep : ∀ c e, ((other c e).look, (other c e).didTapFollowBtn)
      = (c.look, c.didTapFollowBtn) := fun c e => by
    obtain ⟨photo, heq⟩ := other_eq c e
    rw [heq]
    rfl
  have hmade : Blank made := rfl
  exact (look_after_configure (C := cells) (f := fun c => (c.look, c.didTapFollowBtn)) hmade
    (fun _ => rfl) hother
    (fun c hc => (look_configure hc).trans (look_configure hmade).symm) hkeep h es).trans
    (look_configure hmade)

theorem title_made :
    (made.configure ⟨.follow state, details, user⟩).look.2.1 = some "Unfollow" ↔
      state = .following := by
  cases state <;> simp [configure, look, FollowButton.look]

end NotificationFollowEventTableViewCell

/-! ## Neither cell remembers -/

/-- **Recycled follow cells look and answer like new ones**, whatever they have shown before. -/
theorem followCells_sameAsNew :
    (∀ history (model : UserRelationship) (taps : List Unit),
      Prepared (.configure model :: history) →
      let c := UserFollowTableViewCell.cells.after (taps.map .other ++ .configure model :: history)
      c.look = (UserFollowTableViewCell.made.configure model).look ∧
        (c.followButton.title = some "Unfollow" ↔ model.type = .following) ∧
        c.didTapFollowButton = some model) ∧
    ∀ history state details user (es : List FollowCellEvent),
      let model : UserNotification := ⟨.follow state, details, user⟩
      Prepared (.configure model :: history) →
      let c := NotificationFollowEventTableViewCell.cells.after
        (es.map .other ++ .configure model :: history)
      c.look = (NotificationFollowEventTableViewCell.made.configure model).look ∧
        (c.followButton.title = some "Unfollow" ↔ state = .following) ∧
        c.didTapFollowBtn = some model := by
  constructor
  · intro history model taps h c
    obtain ⟨hlook, htap⟩ := Prod.mk.inj (UserFollowTableViewCell.look_after h taps)
    have htitle : c.followButton.title = c.look.2.1 := rfl
    refine ⟨hlook, ?_, htap⟩
    rw [htitle, hlook]
    exact UserFollowTableViewCell.title_made model
  · intro history state details user es model h c
    obtain ⟨hlook, htap⟩ := Prod.mk.inj (NotificationFollowEventTableViewCell.look_after h es)
    have htitle : c.followButton.title = c.look.2.1 := rfl
    refine ⟨hlook, ?_, htap⟩
    rw [htitle, hlook]
    exact NotificationFollowEventTableViewCell.title_made

/-- A cell that has said Unfollow for one user says Follow for the next, and has no border left. -/
theorem unfollowed_recycled :
    let ruth : UserRelationship := ⟨"ruth", "@ruth", .following⟩
    let mat : UserRelationship := ⟨"mat", "@mat", .notFollowing⟩
    let c := UserFollowTableViewCell.cells.after
      [.configure mat, .prepareForReuse, .other (), .configure ruth]
    c.look = (UserFollowTableViewCell.made.configure mat).look ∧
      (c.followButton.title = some "Unfollow" ↔ mat.type = .following) ∧
      c.didTapFollowButton = some mat :=
  followCells_sameAsNew.1 [.prepareForReuse, .other (), .configure ⟨"ruth", "@ruth", .following⟩]
    ⟨"mat", "@mat", .notFollowing⟩ [] ⟨rfl, rfl, trivial⟩

end InstaGLAM
