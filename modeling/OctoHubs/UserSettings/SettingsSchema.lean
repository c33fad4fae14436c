import OctoHubs.Library.Coercions

/-! The fields of a user's settings: of what kind each is, within which bounds, and where the
display preferences keep it.
-/

namespace OctoHubs.UserSettings

open OctoHubs.Library

inductive FieldKind
  | bool
  | int
  | text
  | password
  | language
  | select
  | list
  | multiselect
  | libraryMulti
  | libraryOrder
  | libraryLanding
  | json
  | schedule
deriving DecidableEq

/-- A field; its container is the entry that holds it and the property there. -/
structure FieldMeta where
  key : String
  kind : FieldKind
  min : Option Int := none
  max : Option Int := none
  maxLength : Option Nat := none
  container : Option (String × String) := none

/-- What a user may do. -/
def policyFields : List FieldMeta :=
  [{ key := "IsAdministrator", kind := .bool },
    { key := "EnableUserPreferenceAccess", kind := .bool },
    { key := "AuthenticationProviderId", kind := .text, maxLength := some 256 },
    { key := "LockedOutDate", kind := .int },
    { key := "EnableRemoteAccess", kind := .bool },
    { key := "EnableMediaPlayback", kind := .bool },
    { key := "EnableAudioPlaybackTranscoding", kind := .bool },
    { key := "EnableVideoPlaybackTranscoding", kind := .bool },
    { key := "EnablePlaybackRemuxing", kind := .bool },
    { key := "SimultaneousStreamLimit", kind := .int, min := some 0, max := some 1000 },
    { key := "RemoteClientBitrateLimit", kind := .int, min := some 0, max := some 1000000 },
    { key := "AutoRemoteQuality", kind := .int, min := some 0, max := some 1000000 },
    { key := "EnableLiveTvAccess", kind := .bool },
    { key := "EnableLiveTvManagement", kind := .bool },
    { key := "RestrictedFeatures", kind := .list, maxLength := some 4096 },
    { key := "EnableContentDeletion", kind := .bool },
    { key := "EnableContentDeletionFromFolders", kind := .libraryMulti },
    { key := "EnableRemoteControlOfOtherUsers", kind := .bool },
    { key := "EnableSharedDeviceControl", kind := .bool },
    { key := "EnableContentDownloading", kind := .bool },
    { key := "EnableSyncTranscoding", kind := .bool },
    { key := "EnableSubtitleDownloading", kind := .bool },
    { key := "EnableSubtitleManagement", kind := .bool },
    { key := "AllowCameraUpload", kind := .bool },
    { key := "EnableMediaConversion", kind := .bool },
    { key := "AllowSharingPersonalItems", kind := .bool },
    { key := "EnablePublicSharing", kind := .bool },
    { key := "AllowTagOrRating", kind := .bool },
    { key := "IsDisabled", kind := .bool },
    { key := "IsHidden", kind := .bool },
    { key := "IsHiddenRemotely", kind := .bool },
    { key := "IsHiddenFromUnusedDevices", kind := .bool },
    { key := "EnableAllDevices", kind := .bool },
    { key := "EnabledDevices", kind := .list },
    { key := "EnableAllChannels", kind := .bool },
    { key := "EnabledChannels", kind := .list },
    { key := "DisablePremiumFeatures", kind := .bool },
    { key := "InvalidLoginAttemptCount", kind := .int },
    { key := "LoginAttemptsBeforeLockout", kind := .int },
    { key := "EnableAllFolders", kind := .bool },
    { key := "EnabledFolders", kind := .libraryMulti },
    { key := "MaxParentalRating", kind := .int, min := some 0, max := some 1000 },
    { key := "BlockUnratedItems", kind := .multiselect },
    { key := "BlockedTags", kind := .list, maxLength := some 4096 },
    { key := "BlockedMediaFolders", kind := .libraryMulti },
    { key := "BlockedChannels", kind := .list },
    { key := "IncludeTags", kind := .list, maxLength := some 4096 },
    { key := "IsTagBlockingModeInclusive", kind := .bool },
    { key := "ExcludedSubFolders", kind := .list, maxLength := some 4096 },
    { key := "AccessSchedules", kind := .schedule }]

/-- How a user listens and watches. -/
def configFields : List FieldMeta :=
  [{ key := "OrderedViews", kind := .libraryOrder },
    { key := "LatestItemsExcludes", kind := .libraryMulti },
    { key := "MyMediaExcludes", kind := .libraryMulti },
    { key := "GroupedFolders", kind := .bool },
    { key := "DisplayCollectionsView", kind := .bool },
    { key := "ShowParentImages", kind := .bool },
    { key := "ShowUpdateCheckBox", kind := .bool },
    { key := "HidePlayedInLatest", kind := .bool },
    { key := "HidePlayedInMoreLikeThis", kind := .bool },
    { key := "HidePlayedInSuggestions", kind := .bool },
    { key := "DisplayMissingEpisodes", kind := .bool },
    { key := "AudioLanguagePreference", kind := .language, maxLength := some 8 },
    { key := "PlayDefaultAudioTrack", kind := .bool },
    { key := "RememberAudioSelections", kind := .bool },
    { key := "EnableNextEpisodeAutoPlay", kind := .bool },
    { key := "ResumeRewindSeconds", kind := .int, min := some 0, max := some 3600 },
    { key := "IntroSkipMode", kind := .select },
    { key := "SubtitleLanguagePreference", kind := .language, maxLength := some 8 },
    { key := "SubtitlePlayDefault", kind := .bool },
    { key := "SubtitleMode", kind := .select },
    { key := "RememberSubtitleSelections", kind := .bool },
    { key := "ProfilePin", kind := .password, maxLength := some 32 },
    { key := "EnableLocalPassword", kind := .bool }]

/-- How pages look to a user; some fields are properties of another entry. -/
def displayFields : List FieldMeta :=
  [{ key := "language", kind := .select },
    { key := "datetimelocale", kind := .select },
    { key := "appTheme", kind := .select },
    { key := "skin", kind := .text, maxLength := some 128 },
    { key := "secondaryColor", kind := .select },
    { key := "dashboardTheme", kind := .select },
    { key := "audioBackgroundStyle", kind := .select },
    { key := "tvProgramView", kind := .select },
    { key := "autoOpenSingleItem", kind := .bool },
    { key := "hideEpisodeSpoilers", kind := .bool },
    { key := "enableLogoAsTitle", kind := .bool },
    { key := "showDetailPoster", kind := .bool },
    { key := "detailGenreLimit", kind := .int, min := some 0, max := some 20 },
    { key := "listGenreLimit", kind := .int, min := some 0, max := some 20 },
    { key := "showCompleteMediaInfo", kind := .bool },
    { key := "enableThemeSongs", kind := .bool },
    { key := "enableThemeVideos", kind := .bool },
    { key := "enableBackdrops", kind := .bool },
    { key := "enableSeasonalThemes", kind := .bool },
    { key := "tvhome", kind := .select },
    { key := "homesection0", kind := .select },
    { key := "homesection1", kind := .select },
    { key := "homesection2", kind := .select },
    { key := "homesection3", kind := .select },
    { key := "homesection4", kind := .select },
    { key := "homesection5", kind := .select },
    { key := "homesection6", kind := .select },
    { key := "__library_landing__", kind := .libraryLanding },
    { key := "enableCinemaMode", kind := .bool },
    { key := "enableNextVideoInfoOverlay", kind := .bool },
    { key := "skipForwardLength", kind := .int, min := some 0, max := some 3600000 },
    { key := "skipBackLength", kind := .int, min := some 0, max := some 3600000 },
    { key := "enableStillWatchingPrompt", kind := .bool },
    { key := "showPlaybackRating", kind := .bool },
    { key := "videoPlayerUpButtonAction", kind := .select },
    { key := "subtitleburnin", kind := .select },
    { key := "localplayersubtitleappearance3.textSize", kind := .select,
      container := some ("localplayersubtitleappearance3", "textSize") },
    { key := "localplayersubtitleappearance3.font", kind := .select,
      container := some ("localplayersubtitleappearance3", "font") },
    { key := "localplayersubtitleappearance3.textColor", kind := .select,
      container := some ("localplayersubtitleappearance3", "textColor") },
    { key := "localplayersubtitleappearance3.dropShadow", kind := .select,
      container := some ("localplayersubtitleappearance3", "dropShadow") },
    { key := "localplayersubtitleappearance3.textBackground", kind := .select,
      container := some ("localplayersubtitleappearance3", "textBackground") },
    { key := "localplayersubtitleappearance3.bottomOffset", kind := .select,
      container := some ("localplayersubtitleappearance3", "bottomOffset") },
    { key := "localplayersubtitleappearance3.topOffset", kind := .select,
      container := some ("localplayersubtitleappearance3", "topOffset") }]

def displayPrefsId : String := "usersettings"
def displayPrefsClient : String := "emby"

/-- The field that stands for the pages of all libraries. -/
def libraryLandingKey : String := "__library_landing__"

def allFields : List FieldMeta := policyFields ++ configFields ++ displayFields

def settingsPolicyFields : List String := policyFields.map FieldMeta.key

def settingsConfigFields : List String := configFields.map FieldMeta.key

def settingsDisplayPrefFields : List String :=
  (displayFields.map FieldMeta.key).filter (· ≠ libraryLandingKey)

def settingsListFields : List String :=
  (allFields.filter (fun field =>
    field.kind ∈ [.list, .multiselect, .libraryMulti, .libraryOrder])).map FieldMeta.key

def settingsJsonFields : List String :=
  (allFields.filter (fun field => field.kind ∈ [.json, .schedule])).map FieldMeta.key

def settingsFieldMeta (key : String) : Option FieldMeta :=
  allFields.find? (fun field => field.key = key ∧ field.key ≠ libraryLandingKey)

/-- The display preferences that are properties of another entry. -/
def settingsDisplayJsonFields : List FieldMeta :=
  displayFields.filter (fun field => field.container.isSome)

def protectedPolicyFields : List String :=
  ["IsAdministrator", "IsDisabled", "Authentication", "AuthenticationProviderId", "Password",
    "LockedOutDate", "InvalidLoginAttemptCount", "LoginAttemptsBeforeLockout", "EnableAllFolders",
    "EnabledFolders", "EnabledLibraryFolders", "EnabledMediaFolders", "ExcludedSubFolders",
    "BlockedTags", "BlockedMediaTags", "AccessSchedules", "MaxActiveSessions", "SyncPlayfield"]

def protectedConfigFields : List String :=
  ["GroupedFolders", "DashboardLayout", "HomePageSectionOrder", "LandingScreen"]

def protectedDisplayPrefFields : List String := []

def canSyncPolicyField (key : String) : Bool := key ∉ protectedPolicyFields

def canSyncConfigField (key : String) : Bool := key ∉ protectedConfigFields

def canSyncDisplayField (key : String) : Bool := key ∉ protectedDisplayPrefFields

/-- The page that a library opens with has a key of its own. -/
def isDynamicDisplayPrefKey (key : String) : Bool := "landing-".toList.isPrefixOf key.toList

def isAllowedDisplayPrefKey (key : String) : Bool :=
  key ∈ settingsDisplayPrefFields ∨ isDynamicDisplayPrefKey key

end OctoHubs.UserSettings
