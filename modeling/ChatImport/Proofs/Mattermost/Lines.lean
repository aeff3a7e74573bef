import ChatImport.Mattermost.Lines
import ChatImport.Proofs.Json.Sorting
import ChatImport.Proofs.Mattermost.RoundTrip
import Mathlib.Data.Option.Basic
/-!
# What the lines of an import file tell

A line is read as a value of any kind, and what it tells is looked up in the members of
that value by their names (`Entry.read?`). The look-ups are strict: a member that is left
out where it would be empty is refused if it is there and empty, so what a line tells
also says what it left out.
-/

namespace ChatImport

namespace Mattermost

open Json (member? sorted sortedMembers)

/-! ## Looking up -/

namespace Lines

/-- The text of a value. -/
def text? : Json → Option String
  | .string s => some s
  | _ => none

/-- The whole number of a value. -/
def integer? : Json → Option Int
  | .integer n => some n
  | _ => none

/-- The items of a value. -/
def items? : Json → Option (List Json)
  | .array items => some items
  | _ => none

/-- The members of a value. -/
def members? : Json → Option (List (String × Json))
  | .object ms => some ms
  | _ => none

section

variable {α : Type} (name : String) (ms : List (String × Json))

/-- What a reader makes of a member that has to be there. -/
def given? (read : Json → Option α) : Option α := (member? name ms).bind read

/-- What a reader makes of a text that may be absent. -/
def textIfAny? : Option (Option String) :=
  match member? name ms with
  | none => some none
  | some value => (text? value).map some

/-- What a reader makes of a text that is left out where it would be empty. -/
def textOrEmpty? : Option String :=
  match member? name ms with
  | none => some ""
  | some value => (text? value).filter fun s => !s.isEmpty

/-- What a reader makes of a list that is left out where it would be empty. -/
def listOrEmpty? (read : Json → Option (List α)) : Option (List α) :=
  match member? name ms with
  | none => some []
  | some value => (read value).filter fun list => !list.isEmpty

end

/-- The texts of a value. -/
def texts? (j : Json) : Option (List String) := (items? j).bind (List.mapM text?)

/-- A kind by its letter. -/
def kind? (j : Json) : Option ChannelKind := do
  let letter ← text? j
  ChannelKind.all.find? fun kind => kind.code == letter

/-- The name in an object that gives it the one role. -/
def named? (role : String) (ms : List (String × Json)) : Option String := do
  guard (given? "roles" ms text? = some role)
  given? "name" ms text?

/-- The names of the channels that a user belongs to. -/
def memberships? (j : Json) : Option (List String) := do
  (← items? j).mapM fun item => (members? item).bind (named? "channel_user")

/-- The paths of copied files. -/
def paths? (j : Json) : Option (List String) := do
  (← items? j).mapM fun item => (members? item).bind fun ms => given? "path" ms text?

mutual

/-- What posts and replies have in common. -/
def body? : Json → Option Post
  | .object ms => do
    let user ← given? "user" ms text?
    let message ← given? "message" ms text?
    let props ← listOrEmpty? "props" ms members?
    let createAt ← given? "create_at" ms integer?
    let attachments ← listOrEmpty? "attachments" ms paths?
    let replies ← replies? ms
    return { Post.blank with user, message, props, createAt, attachments, replies }
  | _ => none

/-- The replies among members, none if there is no member for them. -/
def replies? : List (String × Json) → Option (List Post)
  | [] => some []
  | (name, value) :: rest => if name = "replies" then someBodies? value else replies? rest

/-- A list of replies that is not empty. -/
def someBodies? : Json → Option (List Post)
  | .array (first :: rest) => bodies? (first :: rest)
  | _ => none

/-- Replies, each with what it has in common with posts. -/
def bodies? : List Json → Option (List Post)
  | [] => some []
  | item :: rest => do
    let reply ← body? item
    let others ← bodies? rest
    return reply :: others

end

end Lines

/-- What a line tells: of a channel, a user or a post what is written of it. -/
inductive Entry where
  /-- The version of the format. -/
  | version (number : Int)
  /-- A channel of a team. -/
  | channel (team : String) (c : Channel)
  /-- A user of a team. -/
  | user (team : String) (u : User)
  /-- A conversation of users of these names. -/
  | conversation (memberNames : List String) (header : String)
  /-- A post in a channel of a team. -/
  | post (team : String) (p : Post)
  /-- A post in a conversation. -/
  | directPost (p : Post)

namespace Lines

/-- What the line of a channel tells. -/
def channel? (ms : List (String × Json)) : Option Entry := do
  let team ← given? "team" ms text?
  let name ← given? "name" ms text?
  let displayName ← given? "display_name" ms text?
  let kind ← given? "type" ms kind?
  let header ← given? "header" ms text?
  let purpose ← given? "purpose" ms text?
  return .channel team { Channel.blank with name, displayName, kind, header, purpose }

/-- The one team of a user, with the channels. -/
def team? (j : Json) : Option (String × List String) := do
  let [team] ← items? j | none
  let ms ← members? team
  let name ← named? "team_user" ms
  let memberships ← given? "channels" ms memberships?
  return (name, memberships)

/-- What the line of a user tells. -/
def user? (ms : List (String × Json)) : Option Entry := do
  let username ← given? "username" ms text?
  let email ← given? "email" ms text?
  let authService ← textOrEmpty? "auth_service" ms
  let authData ← textIfAny? "auth_data" ms
  let password ← textOrEmpty? "password" ms
  let firstName ← given? "first_name" ms text?
  let lastName ← given? "last_name" ms text?
  let position ← given? "position" ms text?
  guard (given? "roles" ms text? = some "system_user")
  let (team, memberships) ← given? "teams" ms team?
  return .user team { User.blank with
    username, firstName, lastName, position, email, password, memberships, authData, authService }

/-- What the line of a conversation tells. -/
def conversation? (ms : List (String × Json)) : Option Entry := do
  let names ← given? "members" ms texts?
  let header ← given? "header" ms text?
  return .conversation names header

/-- What the line of a post in a channel tells. -/
def post? (ms : List (String × Json)) : Option Entry := do
  let team ← given? "team" ms text?
  let channel ← given? "channel" ms text?
  let post ← body? (.object ms)
  return .post team { post with channel }

/-- What the line of a post in a conversation tells. -/
def directPost? (ms : List (String × Json)) : Option Entry := do
  let channelMembers ← given? "channel_members" ms texts?
  let post ← body? (.object ms)
  return .directPost { post with isDirect := true, channelMembers }

/-- What the member of a line tells, by its type. -/
def content? (type : String) (ms : List (String × Json)) : Option Entry :=
  match type with
  | "channel" => channel? ms
  | "user" => user? ms
  | "direct_channel" => conversation? ms
  | "post" => post? ms
  | "direct_post" => directPost? ms
  | _ => none

/-- What a line tells. -/
def told? (ms : List (String × Json)) : Option Entry := do
  let type ← given? "type" ms text?
  if type = "version" then (given? "version" ms integer?).map .version
  else (given? type ms members?).bind (content? type)

end Lines

/-! ## What is written -/

/-- What is written of a channel. -/
def Channel.told (c : Channel) : Channel :=
  { blank with
    name := c.name, displayName := c.displayName, kind := c.kind, header := c.header,
    purpose := c.purpose }

/-- What is written of a user. -/
def User.told (u : User) : User := { u with id := "" }

namespace Post

mutual

/-- What is written of a post beside where it stands. -/
def told : Post → Post
  | ⟨user, _, message, props, createAt, attachments, replies, _, _⟩ =>
    { blank with user, message, props, createAt, attachments, replies := allTold replies }

/-- What is written of replies. -/
def allTold : List Post → List Post
  | [] => []
  | reply :: rest => told reply :: allTold rest

end

/-- What is written of a post: where it stands is a conversation or a channel. -/
def entry (team : String) (p : Post) : Entry :=
  if p.isDirect then
    .directPost { p.told with isDirect := true, channelMembers := p.channelMembers }
  else .post team { p.told with channel := p.channel }

end Post

/-- What is written of an import, in the order of the lines. -/
def Import.entries (i : Import) (team : String) : List Entry :=
  [.version 1] ++
  (i.publicChannels ++ i.privateChannels).map (fun c => .channel team c.told) ++
  i.users.values.map (fun u => .user team u.told) ++
  (i.groupChannels ++ i.directChannels).map (fun c => .conversation c.memberNames c.header) ++
  i.posts.map (Post.entry team)

namespace Lines

/-! ## Bodies -/

theorem bodies_eq_map (replies : List Post) :
    bodies replies = replies.map fun reply => .object (body reply) := by
  induction replies with
  | nil => rfl
  | cons reply rest ih => rw [bodies, ih, List.map_cons]

theorem replies?_eq (ms : List (String × Json)) :
    replies? ms = (member? "replies" ms).elim (some []) someBodies? := by
  induction ms with
  | nil => rfl
  | cons member rest ih =>
    obtain ⟨name, value⟩ := member
    rw [replies?, Json.member?_cons, ih]
    split
    · rfl
    · rfl

/-- The names that posts and replies have in common. -/
def bodyNames : List String :=
  ["user", "message", "props", "create_at", "attachments", "replies"]

theorem sublist_unlessNone (name : String) (items : List Json) :
    ((unlessNone name items).map (·.1)).Sublist [name] := by
  unfold unlessNone
  split
  · exact List.nil_sublist _
  · exact List.Sublist.refl _

theorem sublist_body (p : Post) : ((body p).map (·.1)).Sublist bodyNames := by
  obtain ⟨user, _, message, props, createAt, attachments, replies, _, _⟩ := p
  have hprops : ((if props.isEmpty then [] else [("props", Json.object props)]).map
      (·.1)).Sublist ["props"] := by
    split
    · exact List.nil_sublist _
    · exact List.Sublist.refl _
  simp only [body, List.map_append]
  exact ((((List.Sublist.refl ["user", "message"]).append hprops).append
    (List.Sublist.refl ["create_at"])).append (sublist_unlessNone _ _)).append
    (sublist_unlessNone _ _)

/-- A member that is left out on a condition. -/
theorem member?_unless {name key : String} {out : Prop} [Decidable out] {value : Json} :
    member? name (if out then [] else [(key, value)]) =
      if out then none else if key = name then some value else none := by
  split
  · rfl
  · rw [Json.member?_cons, Json.member?_nil]

theorem member?_body (p : Post) :
    member? "user" (body p) = some (.string p.user) ∧
    member? "message" (body p) = some (.string p.message) ∧
    member? "props" (body p) = (if p.props.isEmpty then none else some (.object p.props)) ∧
    member? "create_at" (body p) = some (.integer p.createAt) ∧
    member? "attachments" (body p) =
      (if p.attachments.isEmpty then none else some (.array (p.attachments.map attachment))) ∧
    member? "replies" (body p) =
      if p.replies.isEmpty then none else some (.array (bodies p.replies)) := by
  obtain ⟨user, _, message, props, createAt, attachments, replies, _, _⟩ := p
  simp [body, unlessNone, member?_unless, bodies_eq_map]

/-- A reader that takes each item back takes the whole list back. -/
theorem mapM_map {α β : Type} {read : β → Option α} {write : α → β} {list : List α}
    (h : ∀ a ∈ list, read (write a) = some a) : (list.map write).mapM read = some list := by
  induction list with
  | nil => rfl
  | cons a rest ih =>
    rw [List.map_cons, List.mapM_cons, h a List.mem_cons_self,
      ih fun other hmem => h other (List.mem_cons_of_mem _ hmem)]
    rfl

theorem paths?_sorted (paths : List String) :
    paths? (sorted (.array (paths.map attachment))) = some paths := by
  rw [Json.sorted_array, List.map_map]
  exact mapM_map fun path _ => rfl

theorem bodies?_sorted {replies : List Post}
    (h : ∀ reply ∈ replies, body? (sorted (.object (body reply))) = some reply.told) :
    bodies? ((bodies replies).map sorted) = some (Post.allTold replies) := by
  induction replies with
  | nil => rfl
  | cons reply rest ih =>
    rw [bodies, List.map_cons, bodies?, h reply List.mem_cons_self,
      ih fun other hmem => h other (List.mem_cons_of_mem _ hmem)]
    rfl

section

variable {name : String} {ms : List (String × Json)}

/-- A member that was looked up before the members were put in order is found after it. -/
theorem given?_of {α : Type} {read : Json → Option α} {value : Json} {a : α}
    (hfound : member? name ms = some value) (hread : read value = some a) :
    given? name ms read = some a := by
  rw [given?, hfound]
  exact hread

theorem givenText?_of {s : String} (hfound : member? name ms = some (.string s)) :
    given? name ms text? = some s := given?_of hfound rfl

theorem listOrEmpty?_of {α : Type} {read : Json → Option (List α)} {value : Json} {list : List α}
    (hfound : member? name ms = if list.isEmpty then none else some value)
    (hread : read value = some list) : listOrEmpty? name ms read = some list := by
  rw [listOrEmpty?, hfound]
  cases list with
  | nil => rfl
  | cons a rest =>
    change (read value).filter _ = _
    rw [hread]
    rfl

theorem textOrEmpty?_of {s : String}
    (hfound : member? name ms = if s.isEmpty then none else some (.string s)) :
    textOrEmpty? name ms = some s := by
  rw [textOrEmpty?, hfound]
  by_cases h : s.isEmpty = true
  · rw [if_pos h, String.isEmpty_iff.1 h]
  · rw [if_neg h]
    exact Option.filter_some_pos (by simpa using h)

theorem textIfAny?_of {s : Option String} (hfound : member? name ms = s.map .string) :
    textIfAny? name ms = some s := by
  rw [textIfAny?, hfound]
  cases s with
  | none => rfl
  | some s => rfl

end

theorem map_sorted_unless {out : Prop} [Decidable out] {value : Json} :
    (if out then none else some value).map sorted = if out then none else some value.sorted := by
  split
  · rfl
  · rfl

/-- **A body is found again** in an object whose look-ups find it. -/
theorem body?_of {p : Post} (h : p.Regular) : ∀ ms : List (String × Json),
    (∀ name ∈ bodyNames, member? name ms = (member? name (body p)).map sorted) →
    body? (.object ms) = some p.told := by
  induction h with
  | @mk p hprops _ _ _ ih =>
    intro ms hfound
    have hbodies := bodies?_sorted fun reply hmem => by
      rw [Json.sorted_object]
      exact ih reply hmem _ fun name _ => Json.member?_sortedMembers
        ((sublist_body reply).nodup (by decide))
    obtain ⟨huser, hmessage, hprops', htime, hattachments, hreplies⟩ := member?_body p
    have huser' : given? "user" ms text? = some p.user :=
      givenText?_of (by rw [hfound _ (by decide), huser]; rfl)
    have hmessage' : given? "message" ms text? = some p.message :=
      givenText?_of (by rw [hfound _ (by decide), hmessage]; rfl)
    have hprops'' : listOrEmpty? "props" ms members? = some p.props :=
      listOrEmpty?_of (by rw [hfound _ (by decide), hprops', map_sorted_unless])
        (congrArg members? hprops.sorted_eq)
    have htime' : given? "create_at" ms integer? = some p.createAt :=
      given?_of (by rw [hfound _ (by decide), htime]; rfl) rfl
    have hattachments' : listOrEmpty? "attachments" ms paths? = some p.attachments :=
      listOrEmpty?_of (by rw [hfound _ (by decide), hattachments, map_sorted_unless])
        (paths?_sorted _)
    have hreplies' : replies? ms = some (Post.allTold p.replies) := by
      rw [replies?_eq, hfound _ (by decide), hreplies, map_sorted_unless, Json.sorted_array]
      cases hcase : p.replies with
      | nil => rfl
      | cons reply rest =>
        rw [hcase] at hbodies
        exact hbodies
    rw [body?, huser', hmessage', hprops'', htime', hattachments', hreplies']
    obtain ⟨user, _, message, props, createAt, attachments, replies, _, _⟩ := p
    rfl

/-! ## Lines -/

/-- A line tells an entry: its members, put in order, are those of one. -/
def Tells (line : Json) (entry : Entry) : Prop :=
  ∃ ms, line.sorted = .object ms ∧ told? ms = some entry

/-- **A line tells what its member tells**, where each name is looked up. -/
theorem tells_line {type : String} {members : List (String × Json)} {entry : Entry}
    (htype : type ∉ ["type", "version"]) (hnames : (members.map (·.1)).Nodup)
    (h : ∀ ms, (∀ name, member? name ms = (member? name members).map sorted) →
      content? type ms = some entry) : Tells (line type (.object members)) entry := by
  obtain ⟨hne, hversion⟩ : "type" ≠ type ∧ type ≠ "version" := by
    simpa [eq_comm] using htype
  have hnodup : ([("type", Json.string type), (type, .object members)].map (·.1)).Nodup := by
    simpa using hne
  refine ⟨_, Json.sorted_object _, ?_⟩
  have htyped : given? "type" (sortedMembers [] [("type", .string type), (type, .object members)])
      text? = some type := given?_of (Json.member?_sortedMembers hnodup) rfl
  have hcontent : given? type (sortedMembers [] [("type", .string type), (type, .object members)])
      members? = some (sortedMembers [] members) := by
    refine given?_of ((Json.member?_sortedMembers hnodup).trans ?_)
      (congrArg members? (Json.sorted_object members))
    rw [Json.member?_cons, if_neg hne, Json.member?_cons, if_pos rfl]
    rfl
  rw [told?, htyped]
  change (if type = "version" then _ else _) = _
  rw [if_neg hversion, hcontent]
  exact h _ fun name => Json.member?_sortedMembers hnames

theorem kind?_code (kind : ChannelKind) : kind? (.string kind.code) = some kind := by
  cases kind <;> rfl

theorem tells_version : Tells versionLine (.version 1) := ⟨_, rfl, rfl⟩

theorem tells_channel (team : String) (c : Channel) :
    Tells (channelLine team c) (.channel team c.told) := by
  refine tells_line (by decide) (?_ : ["team", "name", "display_name", "type", "header",
    "purpose"].Nodup) fun ms hfound => ?_
  · decide
  · simp [content?, channel?, given?, hfound, text?, kind?_code, Channel.told]

theorem sublist_unlessEmpty (name value : String) :
    ((unlessEmpty name value).map (·.1)).Sublist [name] := by
  unfold unlessEmpty
  split
  · exact List.nil_sublist _
  · exact List.Sublist.refl _

theorem sublist_elim {α : Type} (name : String) (content : α → Json) (a : Option α) :
    ((a.elim [] fun a => [(name, content a)]).map (·.1)).Sublist [name] := by
  cases a with
  | none => exact List.nil_sublist _
  | some a => exact List.Sublist.refl _

/-- A member that is there if there is something to write. -/
theorem member?_elim {α : Type} {name key : String} {content : α → Json} {a : Option α} :
    member? name (a.elim [] fun a => [(key, content a)]) =
      if key = name then a.map content else none := by
  cases a with
  | none => simp
  | some a => simp

theorem named?_of {role name : String} {ms : List (String × Json)}
    (hrole : member? "roles" ms = some (.string role))
    (hname : member? "name" ms = some (.string name)) : named? role ms = some name := by
  rw [named?, givenText?_of hrole, givenText?_of hname]
  simp

theorem memberships?_sorted (names : List String) :
    memberships? (sorted (.array (names.map membership))) = some names := by
  rw [Json.sorted_array, List.map_map]
  refine mapM_map fun name _ => ?_
  have hnames : ["name", "roles"].Nodup := by decide
  rw [Function.comp_apply, membership, Json.sorted_object]
  exact named?_of (Json.member?_sortedMembers hnames) (Json.member?_sortedMembers hnames)

theorem team?_sorted (team : String) (names : List String) :
    team? (sorted (.array [.object [("name", .string team), ("roles", .string "team_user"),
      ("channels", .array (names.map membership))]])) = some (team, names) := by
  have hnames : ["name", "roles", "channels"].Nodup := by decide
  rw [Json.sorted_array, List.map_singleton, Json.sorted_object]
  generalize hms : sortedMembers [] _ = ms
  have hfound : ∀ name, member? name ms = (member? name [("name", .string team),
      ("roles", .string "team_user"), ("channels", .array (names.map membership))]).map sorted :=
    fun name => hms ▸ Json.member?_sortedMembers hnames
  have hname : named? "team_user" ms = some team := named?_of (hfound _) (hfound _)
  have hchannels : given? "channels" ms memberships? = some names :=
    given?_of (hfound _) (memberships?_sorted names)
  change (named? "team_user" ms >>= fun _ => given? "channels" ms memberships? >>= fun _ => _) = _
  rw [hname, hchannels]
  rfl

theorem tells_user (team : String) (u : User) : Tells (userLine team u) (.user team u.told) := by
  refine tells_line (by decide) ?_ fun ms hfound => ?_
  · simp only [List.map_append]
    refine List.Nodup.sublist (((((List.Sublist.refl ["username", "email"]).append
      (sublist_unlessEmpty _ _)).append (sublist_elim _ _ _)).append
      (sublist_unlessEmpty _ _)).append (List.Sublist.refl ["first_name", "last_name",
        "position", "roles", "teams"])) (by decide)
  · have hservice : textOrEmpty? "auth_service" ms = some u.authService :=
      textOrEmpty?_of (by simp [hfound, unlessEmpty, member?_unless, member?_elim,
        map_sorted_unless])
    have hpassword : textOrEmpty? "password" ms = some u.password :=
      textOrEmpty?_of (by simp [hfound, unlessEmpty, member?_unless, member?_elim,
        map_sorted_unless])
    have hdata : textIfAny? "auth_data" ms = some u.authData :=
      textIfAny?_of (by simp [hfound, unlessEmpty, member?_unless, member?_elim,
        Function.comp_def])
    have hteams : given? "teams" ms team? = some (team, u.memberships) :=
      given?_of (by simp [hfound, unlessEmpty, member?_unless, member?_elim])
        (team?_sorted team u.memberships)
    have htexts : given? "username" ms text? = some u.username ∧
        given? "email" ms text? = some u.email ∧
        given? "first_name" ms text? = some u.firstName ∧
        given? "last_name" ms text? = some u.lastName ∧
        given? "position" ms text? = some u.position ∧
        given? "roles" ms text? = some "system_user" := by
      refine ⟨givenText?_of ?_, givenText?_of ?_, givenText?_of ?_, givenText?_of ?_,
        givenText?_of ?_, givenText?_of ?_⟩
      all_goals simp [hfound, unlessEmpty, member?_unless, member?_elim]
    obtain ⟨husername, hemail, hfirst, hlast, hposition, hroles⟩ := htexts
    simp only [content?, user?, husername, hemail, hservice, hdata, hpassword, hfirst, hlast,
      hposition, hroles, hteams]
    rfl

theorem texts?_sorted (names : List String) :
    texts? (sorted (Json.strings names)) = some names := by
  rw [Json.strings, Json.sorted_array, List.map_map]
  exact mapM_map fun name _ => rfl

theorem tells_conversation (c : Channel) :
    Tells (directChannelLine c) (.conversation c.memberNames c.header) := by
  refine tells_line (by decide) (?_ : ["members", "header"].Nodup) fun ms hfound => ?_
  · decide
  · have hmembers : given? "members" ms texts? = some c.memberNames :=
      given?_of (hfound _) (texts?_sorted c.memberNames)
    have hheader : given? "header" ms text? = some c.header := givenText?_of (hfound _)
    simp only [content?, conversation?, hmembers, hheader]
    rfl

/-- The members of a post's line: some that say where it stands, and its body. -/
theorem tells_body {p : Post} (h : p.Regular) {type : String} {extra : List (String × Json)}
    {entry : Entry} (htype : type ∉ ["type", "version"])
    (hnames : (extra.map (·.1) ++ bodyNames).Nodup)
    (hentry : ∀ ms, (∀ name ∈ extra.map (·.1), member? name ms = (member? name extra).map sorted) →
      body? (.object ms) = some p.told → content? type ms = some entry) :
    Tells (line type (.object (extra ++ body p))) entry := by
  have hnodup : ((extra ++ body p).map (·.1)).Nodup := by
    rw [List.map_append]
    exact hnames.sublist ((List.Sublist.refl _).append (sublist_body p))
  refine tells_line htype hnodup fun ms hfound => ?_
  have hdisjoint := (List.nodup_append.1 hnames).2.2
  refine hentry ms (fun name hmem => ?_) (body?_of h ms fun name hmem => ?_)
  · have hbody : name ∉ (body p).map (·.1) := fun hin =>
      hdisjoint _ hmem _ ((sublist_body p).subset hin) rfl
    rw [hfound, Json.member?_append, Json.member?_eq_none hbody, Option.or_none]
  · have hextra : name ∉ extra.map (·.1) := fun hin => hdisjoint _ hin _ hmem rfl
    rw [hfound, Json.member?_append, Json.member?_eq_none hextra, Option.none_or]

theorem tells_post {p : Post} (h : p.Regular) (team : String) :
    Tells (postLine team p) (p.entry team) := by
  unfold postLine Post.entry
  split
  · refine @tells_body p h _ [("channel_members", Json.strings p.channelMembers)] _ (by decide)
      (?_ : (["channel_members"] ++ bodyNames).Nodup) fun ms hfound hbody => ?_
    · decide
    · have hmembers : given? "channel_members" ms texts? = some p.channelMembers :=
        given?_of (hfound _ List.mem_cons_self) (texts?_sorted p.channelMembers)
      simp only [content?, directPost?, hmembers, hbody]
      rfl
  · refine tells_body h (by decide) (?_ : (["team", "channel"] ++ bodyNames).Nodup)
      fun ms hfound hbody => ?_
    · decide
    · have hteam : given? "team" ms text? = some team :=
        givenText?_of (hfound _ List.mem_cons_self)
      have hchannel : given? "channel" ms text? = some p.channel :=
        givenText?_of (hfound _ (by simp))
      simp only [content?, post?, hteam, hchannel, hbody]
      rfl

/-! ## One line each -/

theorem plain_strings (names : List String) : (Json.strings names).Plain := by
  refine .array fun item hmem => ?_
  obtain ⟨name, -, rfl⟩ := List.mem_map.1 hmem
  exact .string

theorem plain_line {type : String} {content : Json} (h : content.Plain) :
    (line type content).Plain :=
  .object (List.forall_mem_cons.2 ⟨.string, List.forall_mem_singleton.2 h⟩)

theorem plain_map {α : Type} {write : α → Json} {list : List α}
    (h : ∀ a ∈ list, (write a).Plain) : (Json.array (list.map write)).Plain := by
  refine .array fun item hitem => ?_
  obtain ⟨a, hmem, rfl⟩ := List.mem_map.1 hitem
  exact h a hmem

/-- Members whose values are plain, also if they are left out on a condition. -/
theorem plain_unless {out : Prop} [Decidable out] {name : String} {value : Json}
    (h : value.Plain) : ∀ member ∈ (if out then [] else [(name, value)]), member.2.Plain := by
  split
  · exact List.forall_mem_nil _
  · exact List.forall_mem_singleton.2 h

theorem plain_channelLine (team : String) (c : Channel) : (channelLine team c).Plain := by
  refine plain_line (.object ?_)
  simp only [List.forall_mem_cons]
  exact ⟨.string, .string, .string, .string, .string, .string, List.forall_mem_nil _⟩

theorem plain_membership (name : String) : (membership name).Plain := by
  refine .object ?_
  simp only [List.forall_mem_cons]
  exact ⟨.string, .string, List.forall_mem_nil _⟩

theorem plain_userLine (team : String) (u : User) : (userLine team u).Plain := by
  have hteam : (Json.object [("name", .string team), ("roles", .string "team_user"),
      ("channels", .array (u.memberships.map membership))]).Plain := by
    refine .object ?_
    simp only [List.forall_mem_cons]
    exact ⟨.string, .string, plain_map fun name _ => plain_membership name,
      List.forall_mem_nil _⟩
  have hdata : ∀ member ∈ (u.authData.elim [] fun data => [("auth_data", Json.string data)]),
      member.2.Plain := by
    cases u.authData with
    | none => exact List.forall_mem_nil _
    | some data => exact List.forall_mem_singleton.2 .string
  refine plain_line (.object ?_)
  simp only [List.forall_mem_append, List.forall_mem_cons]
  exact ⟨⟨⟨⟨⟨.string, .string, List.forall_mem_nil _⟩, plain_unless .string⟩, hdata⟩,
    plain_unless .string⟩, .string, .string, .string, .string,
    .array (List.forall_mem_singleton.2 hteam), List.forall_mem_nil _⟩

theorem plain_directChannelLine (c : Channel) : (directChannelLine c).Plain := by
  refine plain_line (.object ?_)
  simp only [List.forall_mem_cons]
  exact ⟨plain_strings _, .string, List.forall_mem_nil _⟩

theorem plain_body {p : Post} (h : p.Regular) : ∀ member ∈ body p, member.2.Plain := by
  induction h with
  | @mk p hprops hleast hgreatest _ ih =>
    have hword : p.createAt ≤ Double.wordLimit := Int.le_trans hgreatest (by decide)
    have hpaths : ∀ path ∈ p.attachments, (attachment path).Plain := fun path _ =>
      .object (List.forall_mem_singleton.2 .string)
    have hbodies : (Json.array (bodies p.replies)).Plain := by
      rw [bodies_eq_map]
      exact plain_map fun reply hmem => .object (ih reply hmem)
    obtain ⟨user, _, message, props, createAt, attachments, replies, _, _⟩ := p
    simp only [body, List.forall_mem_append, List.forall_mem_cons]
    exact ⟨⟨⟨⟨⟨.string, .string, List.forall_mem_nil _⟩, plain_unless hprops.plain⟩,
      .integer hleast hword, List.forall_mem_nil _⟩, plain_unless (plain_map hpaths)⟩,
      plain_unless hbodies⟩

theorem plain_postLine {p : Post} (h : p.Regular) (team : String) : (postLine team p).Plain := by
  unfold postLine
  split
  · exact plain_line (.object (List.forall_mem_cons.2 ⟨plain_strings _, plain_body h⟩))
  · exact plain_line (.object (List.forall_mem_cons.2
      ⟨.string, List.forall_mem_cons.2 ⟨.string, plain_body h⟩⟩))

/-- Lines that are put one after the other, each with its break, are taken apart again. -/
theorem splitOn_lines {lines : List String} (h : ∀ line ∈ lines, '\n' ∉ line.toList) :
    (String.join (lines.map fun line => line ++ "\n")).toList.splitOn '\n' =
      lines.map String.toList ++ [[]] := by
  rw [String.toList_join, List.flatMap_map]
  induction lines with
  | nil => rfl
  | cons line rest ih =>
    have hline : ∀ c ∈ line.toList, (c == '\n') = false := fun c hmem =>
      beq_eq_false_iff_ne.2 fun heq => h line List.mem_cons_self (heq ▸ hmem)
    have hrest := ih fun other hmem => h other (List.mem_cons_of_mem _ hmem)
    rw [List.flatMap_cons, String.toList_append, List.append_assoc]
    exact (List.splitOnP_append_cons_of_forall_mem hline '\n' (beq_self_eq_true _) _).trans
      (congrArg (line.toList :: ·) hrest)

/-! ## The whole file -/

theorem tells_map {α : Type} {write : α → Json} {entry : α → Entry} {list : List α}
    (h : ∀ a ∈ list, Tells (write a) (entry a)) :
    List.Forall₂ Tells (list.map write) (list.map entry) := by
  rw [List.forall₂_map_left_iff, List.forall₂_map_right_iff, List.forall₂_same]
  exact h

end Lines

namespace Import

open Lines

/-- **The lines of an import tell what is written of it**, in their order. -/
theorem tells_lines {i : Import} (h : i.Regular) (team : String) :
    List.Forall₂ Tells (i.lines team) (i.entries team) := by
  have hversion : List.Forall₂ Tells [versionLine] [.version 1] := .cons tells_version .nil
  exact List.rel_append (List.rel_append (List.rel_append (List.rel_append hversion
    (tells_map fun c _ => tells_channel team c)) (tells_map fun u _ => tells_user team u))
    (tells_map fun c _ => tells_conversation c))
    (tells_map fun p hmem => tells_post (h p hmem) team)

/-- **Every line of a regular import is plain.** -/
theorem plain_lines {i : Import} (h : i.Regular) (team : String) :
    ∀ line ∈ i.lines team, line.Plain := by
  simp only [lines, List.forall_mem_append, List.forall_mem_map, List.forall_mem_singleton]
  exact ⟨⟨⟨⟨plain_line (.integer (by decide) (by decide)),
    ⟨fun c _ => plain_channelLine team c, fun c _ => plain_channelLine team c⟩⟩,
    fun u _ => plain_userLine team u⟩,
    ⟨fun c _ => plain_directChannelLine c, fun c _ => plain_directChannelLine c⟩⟩,
    fun p hmem => plain_postLine (h p hmem) team⟩

/-- Lines that are no deeper than a reader allows. -/
def Shallow (i : Import) (team : String) : Prop :=
  ∀ line ∈ i.lines team, line.depth ≤ Json.deepestNesting

instance (i : Import) (team : String) : Decidable (i.Shallow team) :=
  inferInstanceAs (Decidable (∀ line ∈ i.lines team, line.depth ≤ Json.deepestNesting))

/-- A piece of text tells an entry: it reads as one object, which tells it. -/
def PieceTells (piece : String) (entry : Entry) : Prop :=
  ∃ ms, Json.readString Json.Decoder.value piece = .ok (.object ms) ∧ told? ms = some entry

/-- A text tells entries: its pieces between the line breaks, the last of them empty, tell
one each. -/
def FileTells (text : String) (entries : List Entry) : Prop :=
  ∃ pieces : List String, text.toList.splitOn '\n' = pieces.map String.toList ++ [[]] ∧
    List.Forall₂ PieceTells pieces entries

theorem pieceTells_text {line : Json} {entry : Entry} (hplain : line.Plain)
    (hdepth : line.depth ≤ Json.deepestNesting) (h : Tells line entry) :
    PieceTells line.text entry := by
  obtain ⟨ms, hsorted, hentry⟩ := h
  refine ⟨ms, ?_, hentry⟩
  rw [Json.readString_text, Json.Decoder.value_tree_sorted hplain _ hdepth, hsorted]

theorem fileTells_fileText {i : Import} {team : String} (h : i.Regular)
    (hdepth : i.Shallow team) : FileTells (i.fileText team) (i.entries team) := by
  refine ⟨(i.lines team).map Json.text, ?_, ?_⟩
  · have hsplit := @splitOn_lines ((i.lines team).map Json.text) (by
      simp only [List.forall_mem_map]
      exact fun line hmem => Json.newline_notMem_text (plain_lines h team line hmem))
    rw [List.map_map] at hsplit
    exact hsplit
  · rw [List.forall₂_map_left_iff]
    have hlines := (List.forall₂_and_left _ _).2
      ⟨fun line (hmem : line ∈ i.lines team) => hmem, tells_lines h team⟩
    exact hlines.imp fun line entry ⟨hmem, htells⟩ =>
      pieceTells_text (plain_lines h team line hmem) (hdepth line hmem) htells

theorem PieceTells.unique : Relator.RightUnique PieceTells := by
  rintro piece entry entry' ⟨ms, hread, hentry⟩ ⟨ms', hread', hentry'⟩
  cases hread.symm.trans hread'
  exact Option.some.inj (hentry.symm.trans hentry')

/-- **A text tells one list of entries.** -/
theorem FileTells.unique {text : String} {entries entries' : List Entry}
    (h : FileTells text entries) (h' : FileTells text entries') : entries = entries' := by
  obtain ⟨pieces, hsplit, htells⟩ := h
  obtain ⟨pieces', hsplit', htells'⟩ := h'
  have hpieces : pieces = pieces' := by
    refine List.map_injective_iff.2 (fun _ _ => String.toList_inj.1) ?_
    exact List.append_cancel_right (hsplit.symm.trans hsplit')
  subst hpieces
  exact List.right_unique_forall₂' PieceTells.unique htells htells'

theorem length_entries (i : Import) (team : String) :
    (i.entries team).length = 1 + i.publicChannels.length + i.privateChannels.length +
      i.users.size + i.groupChannels.length + i.directChannels.length + i.posts.length := by
  simp only [entries, List.length_append, List.length_map, List.length_singleton,
    Table.length_values]
  omega

/-- **The file of an import tells what is written of it**, one line each in the order of
the entries, and so two imports of which something else is written have different files. -/
theorem fileText_tells :
    (∀ (i : Import) (team : String), i.Regular → i.Shallow team →
      FileTells (i.fileText team) (i.entries team) ∧
      ((i.fileText team).toList.splitOn '\n').dropLast.length =
        1 + i.publicChannels.length + i.privateChannels.length + i.users.size +
          i.groupChannels.length + i.directChannels.length + i.posts.length) ∧
    ∀ (i i' : Import) (team team' : String), i.Regular → i'.Regular → i.Shallow team →
      i'.Shallow team' → i.entries team ≠ i'.entries team' →
      i.fileText team ≠ i'.fileText team' := by
  constructor
  · intro i team h hdepth
    have htells := fileTells_fileText h hdepth
    refine ⟨htells, ?_⟩
    obtain ⟨pieces, hsplit, hpieces⟩ := htells
    rw [hsplit, List.dropLast_concat, List.length_map, hpieces.length_eq, length_entries]
  · intro i i' team team' h h' hdepth hdepth' hne heq
    have htells' := fileTells_fileText h' hdepth'
    rw [← heq] at htells'
    exact hne ((fileTells_fileText h hdepth).unique htells')

/-- An import with a channel, a user who signs in elsewhere, a conversation, a thread of
the channel and a post in the conversation. -/
def sample : Import where
  publicChannels := [{ Channel.blank with name := "town", header := "a\nb" }]
  privateChannels := []
  groupChannels := []
  directChannels := [{ Channel.blank with memberNames := ["ann", "bob"], kind := .direct }]
  users := Table.empty.insert "U1" { User.blank with
    username := "ann", authData := some "", authService := "saml", memberships := ["town"] }
  posts := [answered, { Post.plain "bob" "" "\\o/" 9 with
    isDirect := true, channelMembers := ["ann", "bob"] }]

theorem regular_sample : sample.Regular :=
  List.forall_mem_cons.2 ⟨regular_answered,
    List.forall_mem_singleton.2 (.mk (.object .nil nofun) (by decide) (by decide) nofun)⟩

/-- Six lines tell the sample, and its file is not that of the sample whose channel has a
backslash and a letter in place of the line break. -/
theorem fileText_tells_sample :
    FileTells (sample.fileText "t") (sample.entries "t") ∧
    ((sample.fileText "t").toList.splitOn '\n').dropLast.length = 6 ∧
    sample.fileText "t" ≠ { sample with
      publicChannels :=
        [{ Channel.blank with name := "town", header := "a\\nb" }] }.fileText "t" := by
  have hsample := fileText_tells.1 sample "t" regular_sample (by decide)
  refine ⟨hsample.1, hsample.2, ?_⟩
  refine fileText_tells.2 sample _ "t" "t" regular_sample regular_sample (by decide) (by decide) ?_
  simp [entries, sample, Channel.told]

end Import

end Mattermost

end ChatImport
