/-!
# Models/UserPost — users, posts and notifications

The data the feed and the notifications are made of.  A `URL` is its absolute string, a `Date` a
number of ticks.
-/

namespace InstaGLAM

/-- A `URL`, as its `absoluteString`. -/
abbrev URL := List Char

/-- A `Date`, in ticks. -/
abbrev Date := Int

inductive UserPostType where
  | photo | video
  deriving DecidableEq

/-- `rawValue` -/
def UserPostType.rawValue : UserPostType → String
  | .photo => "Photo"
  | .video => "Video"

inductive Gender where
  | male | female | other
  deriving DecidableEq

structure UserCounts where
  followers : Int
  following : Int
  posts : Int
  deriving DecidableEq

structure User where
  username : String
  bio : String
  name : String × String
  birthDate : Date
  gender : Gender
  counts : UserCounts
  dateJoined : Date
  profilePhoto : URL
  deriving DecidableEq

structure PostLikes where
  username : String
  postIdentifier : String
  deriving DecidableEq

structure CommentLikes where
  username : String
  commentIdentifier : String
  deriving DecidableEq

structure PostComment where
  identifier : String
  username : String
  text : String
  datePosted : Date
  likes : List CommentLikes
  deriving DecidableEq

structure UserPost where
  identifier : String
  postType : UserPostType
  thumbnailImage : URL
  postURL : URL
  caption : Option String
  likeCount : List PostLikes
  comments : List PostComment
  datePosted : Date
  taggedUsers : List String
  postOwner : User
  deriving DecidableEq

inductive FollowState where
  | following | notFollowing
  deriving DecidableEq

structure UserRelationship where
  name : String
  username : String
  type : FollowState
  deriving DecidableEq

inductive UserNotificationType where
  | like (post : UserPost)
  | follow (state : FollowState)
  deriving DecidableEq

structure UserNotification where
  type : UserNotificationType
  details : String
  user : User
  deriving DecidableEq

/-- An image: one from the asset catalogue, or one loaded from a `URL`. -/
inductive Picture where
  | named (name : String)
  | loaded (url : URL)
  deriving DecidableEq

/-- The colours the views give their buttons. -/
inductive UIColor where
  | black | white | lightGray | link | label | secondaryLabel | secondarySystemBackground
  | systemGray | systemGray6 | systemBlue
  deriving DecidableEq

/-- `UINavigationItem.LargeTitleDisplayMode` -/
inductive LargeTitleDisplayMode where
  | automatic | always | never
  deriving DecidableEq

/-- The mock post that several screens and cells carry, one for each `username`; the three dates are
the moments it is made. -/
def mockPost (username : String) (birthDate dateJoined datePosted : Date) : UserPost where
  identifier := "13"
  postType := .photo
  thumbnailImage := "https://www.google.com".toList
  postURL := "https://www.google.com".toList
  caption := none
  likeCount := []
  comments := []
  datePosted := datePosted
  taggedUsers := []
  postOwner :=
    { username := username
      bio := "Frontend engineer"
      name := ("", "")
      birthDate := birthDate
      gender := .male
      counts := ⟨12, 34, 44⟩
      dateJoined := dateJoined
      profilePhoto := "https://www.google.com".toList }

end InstaGLAM
