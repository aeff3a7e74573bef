import ChatImport.Proofs.Conversion.Integrity
import ChatImport.Proofs.Mattermost.Lines
/-!
# What users sign in with

A service for signing in knows the users by their addresses, and so the import says of
each user which service that is and which address it knows. The address is the one of the
profile. A user who has given none gets another to be written to, but the service has been
told by then: what it knows him by is empty.

`Conversion.withUsers_signIn` says of all users of a workspace, listed more than once or
not, how they are enrolled. It also says that every line of a user agrees with itself, in
that the service knows the user by the address on the line, if and only if nobody has gone
without an address.
-/

namespace ChatImport

namespace Mattermost

/-! ## One user -/

/-- The service knows the user by the address that he has. -/
def User.Known (u : User) : Prop := u.authData = some u.email

/-- A user of the import as he comes of one of the workspace, where users sign in with a
service. -/
structure User.EnrolledAs (service : String) (member : Slack.User) (u : User) : Prop where
  id : u.id = member.id
  authService : u.authService = service
  /-- The service is told the address of the profile, given or not. -/
  authData : u.authData = some member.profile.email
  /-- The user has that address too, if it is given. -/
  given : member.profile.email ≠ "" → u.email = member.profile.email
  /-- Otherwise one is filled in. -/
  filled : member.profile.email = "" → u.email = placeholderEmail member.username

variable {service : String} {member : Slack.User} {u : User}

/-- Every user of the workspace is enrolled. -/
theorem User.enrolled_ofWorkspace (service : String) (member : Slack.User) :
    EnrolledAs service member (ofWorkspace (some service) member).withinLimits.1 := by
  refine ⟨rfl, rfl, rfl, fun hgiven => ?_, fun hnone => ?_⟩
  · exact (email_withinLimits _).trans (if_neg hgiven)
  · exact (email_withinLimits _).trans (if_pos hnone)

/-- **The service knows exactly those users by their addresses who have given one.** -/
theorem User.EnrolledAs.known_iff (h : u.EnrolledAs service member) :
    u.Known ↔ member.profile.email ≠ "" := by
  constructor
  · intro hknown hnone
    rw [Known, h.authData, h.filled hnone, hnone, Option.some.injEq] at hknown
    exact placeholderEmail_ne _ hknown.symm
  · intro hgiven
    rw [Known, h.authData, h.given hgiven]

/-! ## Lines -/

/-- The line tells of a user whom the service knows by the address on the line. -/
def Lines.TellsKnown (line : Json) : Prop := ∃ team u, Tells line (.user team u) ∧ u.Known

theorem Lines.Tells.unique {line : Json} {entry entry' : Entry} (h : Tells line entry)
    (h' : Tells line entry') : entry = entry' := by
  obtain ⟨ms, hsorted, hentry⟩ := h
  obtain ⟨ms', hsorted', hentry'⟩ := h'
  cases hsorted.symm.trans hsorted'
  exact Option.some.inj (hentry.symm.trans hentry')

theorem Lines.tellsKnown_iff (team : String) : TellsKnown (userLine team u) ↔ u.Known := by
  constructor
  · rintro ⟨team', told, htells, hknown⟩
    cases htells.unique (tells_user team u)
    exact hknown
  · exact fun hknown => ⟨team, u.told, tells_user team u, hknown⟩

end Mattermost

/-! ## All users -/

/-- The user of the workspace under an identifier; of several the last. -/
def Slack.memberNamed? (members : List Slack.User) (id : String) : Option Slack.User :=
  members.reverse.find? fun member => member.id == id

namespace Conversion

open Mattermost (User Lines.TellsKnown Lines.tellsKnown_iff)

variable {service : String} {members : List Slack.User}

/-- **The users that a fresh conversion makes** are those of the workspace, under their own
identifiers. -/
theorem find?_users_iff {password : String} {files : Files} {backend : Backend} {id : String}
    {user : User} :
    ((fresh password files backend).withUsers (some service) members).content.users.find? id =
        some user ↔
      ∃ member, Slack.memberNamed? members id = some member ∧
        user = (User.ofWorkspace (some service) member).withinLimits.1 := by
  have hempty : (fresh password files backend).content.users.find? id = none := rfl
  rw [find?_withUsers_eq, hempty, Option.or_none, Option.map_eq_some_iff]
  simp only [Slack.memberNamed?, eq_comm]

/-- **How users sign in.** Let the users of a workspace sign in with a service, and let
them be listed in any way. Each user of the import has his own identifier and that service,
which knows him by the address of his profile, empty or not. And on all lines of users that
is the address of the user himself, if and only if everybody has given an address who is the
last to be listed under his identifier. -/
theorem withUsers_signIn (service : String) (members : List Slack.User) (password : String)
    (files : Files) (backend : Backend) :
    let i := ((fresh password files backend).withUsers (some service) members).content
    (∀ id user, i.users.find? id = some user → user.id = id ∧
      ∃ member, Slack.memberNamed? members id = some member ∧ user.EnrolledAs service member) ∧
    ∀ team, ((∀ user ∈ i.users.values, Lines.TellsKnown (Mattermost.Lines.userLine team user)) ↔
      ∀ id member, Slack.memberNamed? members id = some member →
        member.profile.email ≠ "") := by
  intro i
  refine ⟨fun id user hfind => ?_, fun team => ⟨fun hall id member hlast => ?_,
    fun hall user hmem => ?_⟩⟩
  · obtain ⟨member, hlast, rfl⟩ := find?_users_iff.1 hfind
    have hid : member.id = id := by simpa using List.find?_some hlast
    exact ⟨hid, member, hlast, User.enrolled_ofWorkspace service member⟩
  · have hfind : i.users.find? id = some (User.ofWorkspace (some service) member).withinLimits.1 :=
      find?_users_iff.2 ⟨member, hlast, rfl⟩
    have hknown := (Lines.tellsKnown_iff team).1 (hall _ (Table.mem_values_iff.2 ⟨id, hfind⟩))
    exact (User.enrolled_ofWorkspace service member).known_iff.1 hknown
  · obtain ⟨id, hfind⟩ := Table.mem_values_iff.1 hmem
    obtain ⟨member, hlast, rfl⟩ := find?_users_iff.1 hfind
    exact (Lines.tellsKnown_iff team).2
      ((User.enrolled_ofWorkspace service member).known_iff.2 (hall id member hlast))

/-- **Who has given no address is not known by the one that is filled in**: the service
knows nothing of `ann@example.com`. -/
theorem withUsers_unknown_of_blank :
    let i := ((fresh "" Files.empty Backend.empty).withUsers (some "gitlab")
      [⟨"U1", "ann", Slack.Profile.blank⟩]).content
    ∃ user, i.users.find? "U1" = some user ∧ user.email = "ann@example.com" ∧
      user.authService = "gitlab" ∧ user.authData = some "" ∧
      ¬ Lines.TellsKnown (Mattermost.Lines.userLine "team" user) := by
  intro i
  have henrolled := User.enrolled_ofWorkspace "gitlab" ⟨"U1", "ann", Slack.Profile.blank⟩
  refine ⟨_, find?_users_iff.2 ⟨_, rfl, rfl⟩, henrolled.filled rfl, henrolled.authService,
    henrolled.authData, fun hline => ?_⟩
  exact henrolled.known_iff.1 ((Lines.tellsKnown_iff "team").1 hline) rfl

end Conversion

end ChatImport
