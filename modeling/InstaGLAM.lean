import InstaGLAM.FirebaseManager.FailedRegistration
import InstaGLAM.FirebaseManager.Accounts
import InstaGLAM.Controllers.Session
import InstaGLAM.Controllers.ExploreTouches
import InstaGLAM.Controllers.PostDetailsViewController
import InstaGLAM.Controllers.FeedSections
import InstaGLAM.Controllers.PostReports
import InstaGLAM.Controllers.EditProfileViewController
import InstaGLAM.Controllers.ScreenLayout
import InstaGLAM.Controllers.OnboardingTouches
import InstaGLAM.Helpers.Validation
import InstaGLAM.Views.NotificationLikeEventTableViewCell
import InstaGLAM.Views.FollowCells
import InstaGLAM.Views.ProfileTabsCollectionReusableView
import InstaGLAM.Views.ProfileInfoHeaderCollectionReusableView
import InstaGLAM.Views.RowLayout
import InstaGLAM.SDWebImage.Loading
import InstaGLAM.SDWebImage.LikeCell
import InstaGLAM.SDWebImage.DiskCache
import InstaGLAM.Controllers.FeedButtons
import InstaGLAM.Controllers.ListViewController
import InstaGLAM.Controllers.NotificationViewController
import InstaGLAM.FirebaseDatabase.Recovery
import InstaGLAM.FirebaseDatabase.SetValue
import InstaGLAM.FirebaseDatabase.WebSocketFrames
