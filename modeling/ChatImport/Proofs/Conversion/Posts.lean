import ChatImport.Conversion.Posts
import ChatImport.Proofs.Running
import ChatImport.Proofs.Table
/-!
# What becomes of a message

Whether a message becomes a post, and which, is told by the settings, the
message and the names of the users (`Conversion.postOf?`). The conversion of
a message does what it is told (`Conversion.postFor_spec`): it gives this
post, with the paths of the files that were copied for it. Beside that it may
write into the log, and for a message of a bot it may make the user who is
its author; it never touches the posts made so far, the summary or the
backend, and it can fail only where files are copied.
-/

namespace ChatImport

open Mattermost (Post Channel)

namespace Conversion

/-! ## The post of a message -/

section Told

variable (config : Config) (names : String → Option String) (message : Slack.Message)

/-- The name under an identifier, which may not be empty. -/
def named? (id : String) : Option String := if id.isEmpty then none else names id

/-- Is it a message of a bot or a workflow, and are these imported? -/
def isAutomatic : Bool := config.importWorkflowMessages && message.kind == .bot

/-- The names when the author of the message is looked for: there is one for the
messages of bots by then. -/
def namesFor (id : String) : Option String :=
  if isAutomatic config message && id == workflowUserId then
    some ((names id).getD workflowUsername)
  else names id

/-- The author of the post. -/
def author? : Option String :=
  match message.kind with
  | .plain | .channelTopic | .channelPurpose | .channelName => named? names message.user
  | .fileComment => message.comment.bind fun comment => named? names comment.user
  | .bot => if config.importWorkflowMessages then names workflowUserId else none
  | .joinLeave | .me | .unsupported => none

/-- The text of the post. -/
def wording : String :=
  match message.kind, message.comment with
  | .fileComment, some comment => comment.comment
  | _, _ => message.text

/-- The properties of the post, unless it is dropped for them. -/
def extras? : Option (List (String × Json)) :=
  match message.kind with
  | .plain | .bot => (propsFor config message).1
  | _ => some []

/-- The post, but for the files that go with it. -/
def postOf? (channel : Channel) : Option Post :=
  (author? config names message).bind fun author => (extras? config message).map fun props =>
    { Post.plain author channel.name (wording message) message.createdAt with props := props }

end Told

variable {config : Config} {uploads : Uploads} {message : Slack.Message} {channel : Channel}
variable {names : String → Option String} {c c' : Conversion} {post : Post} {id author : String}

/-- A post that has just been made of a message: it has the time of the message,
the handle of the channel and no replies, and belongs to no conversation yet. -/
structure NewPost (message : Slack.Message) (channel : Channel) (post : Post) : Prop where
  createAt : post.createAt = message.createdAt
  replies : post.replies = []
  channel : post.channel = channel.name
  channelMembers : post.channelMembers = []
  /-- What goes with the message goes with the post, if anything does. -/
  props : post.props = [] ∨ post.props = [("attachments", .array message.attachments)]

/-- The properties of a post are left out, or they are what goes with the message and short
enough. -/
theorem props_of_extras? {props : List (String × Json)} (h : extras? config message = some props) :
    props = [] ∨ props = [("attachments", .array message.attachments)] ∧
      charCount (Json.object props).text ≤ config.maxPropsChars := by
  have hprops : (propsFor config message).1 = some props →
      props = [] ∨ props = [("attachments", .array message.attachments)] ∧
        charCount (Json.object props).text ≤ config.maxPropsChars := by
    intro hprops
    unfold propsFor at hprops
    simp only [] at hprops
    split at hprops
    · exact Or.inl (Option.some.inj hprops).symm
    split at hprops
    · next hsize =>
      cases hprops
      exact Or.inr ⟨rfl, hsize⟩
    split at hprops
    · cases hprops
    · exact Or.inl (Option.some.inj hprops).symm
  unfold extras? at h
  split at h
  · exact hprops h
  · exact hprops h
  · exact Or.inl (Option.some.inj h).symm

theorem newPost_of_postOf? (h : postOf? config names message channel = some post)
    (paths : List String) : NewPost message channel { post with attachments := paths } := by
  obtain ⟨author, -, h⟩ := Option.bind_eq_some_iff.1 h
  obtain ⟨props, hprops, rfl⟩ := Option.map_eq_some_iff.1 h
  exact ⟨rfl, rfl, rfl, rfl, (props_of_extras? hprops).imp_right And.left⟩

/-- An author is someone whose name is known. -/
theorem exists_name_of_author? (h : author? config names message = some author) :
    ∃ id, names id = some author := by
  have hnamed : ∀ id, named? names id = some author → names id = some author := by
    intro id hid
    unfold named? at hid
    split at hid
    · cases hid
    · exact hid
  unfold author? at h
  cases hkind : message.kind with
  | plain | channelTopic | channelPurpose | channelName =>
    simp only [hkind] at h
    exact ⟨_, hnamed _ h⟩
  | fileComment =>
    simp only [hkind] at h
    obtain ⟨comment, -, h⟩ := Option.bind_eq_some_iff.1 h
    exact ⟨_, hnamed _ h⟩
  | bot =>
    simp only [hkind] at h
    split at h
    · exact ⟨_, h⟩
    · cases h
  | joinLeave | me | unsupported =>
    simp only [hkind] at h
    cases h

theorem exists_name_of_postOf? (h : postOf? config names message channel = some post) :
    ∃ id, names id = some post.user := by
  obtain ⟨author, hauthor, h⟩ := Option.bind_eq_some_iff.1 h
  obtain ⟨props, -, rfl⟩ := Option.map_eq_some_iff.1 h
  exact exists_name_of_author? hauthor

/-! ## What a conversion leaves alone -/

/-- Nothing has changed but files and the log. -/
structure Beside (c c' : Conversion) : Prop where
  content : c'.content = c.content
  summary : c'.summary = c.summary
  backend : c'.backend = c.backend

theorem Beside.refl : c.Beside c := ⟨rfl, rfl, rfl⟩

theorem Beside.trans {c'' : Conversion} (h : c.Beside c') (h' : c'.Beside c'') : c.Beside c'' :=
  ⟨h'.content.trans h.content, h'.summary.trans h.summary, h'.backend.trans h.backend⟩

theorem beside_telling (lines : List LogLine) : c.Beside (c.telling lines) := ⟨rfl, rfl, rfl⟩

theorem Beside.username? (h : c.Beside c') : c'.username? = c.username? := by
  funext id
  rw [Conversion.username?, Conversion.username?, h.content]

/-- The conversion when the author of the message is looked for. -/
def withAuthorFor (config : Config) (message : Slack.Message) (c : Conversion) : Conversion :=
  if isAutomatic config message then c.withWorkflowUser else c

theorem withAuthorFor_of_not (h : isAutomatic config message = false) :
    c.withAuthorFor config message = c := if_neg (by simp [h])

/-- The names are those of the users that have been made. -/
theorem username?_congr {c c' : Conversion} (hcontent : c'.content = c.content) :
    c'.username? = c.username? := by
  funext id
  rw [username?, username?, hcontent]

theorem username?_withWorkflowUser : c.withWorkflowUser.username? id =
    if id = workflowUserId then some ((c.username? id).getD workflowUsername)
    else c.username? id := by
  unfold withWorkflowUser
  cases hfind : c.content.users.find? workflowUserId with
  | some user =>
    rw [if_pos (by simp [Table.contains, hfind])]
    split
    · next hid => simp [hid, Conversion.username?, hfind]
    · rfl
  | none =>
    rw [if_neg (by simp [Table.contains, hfind])]
    change ((c.content.users.insert workflowUserId _).find? id).map _ = _
    rw [Table.find?_insert]
    by_cases hid : id = workflowUserId
    · rw [if_pos hid.symm, if_pos hid, hid, Conversion.username?, hfind]
      rfl
    · rw [if_neg (Ne.symm hid), if_neg hid]
      rfl

theorem username?_withAuthorFor :
    (c.withAuthorFor config message).username? = namesFor config c.username? message := by
  funext id
  unfold withAuthorFor namesFor
  by_cases hauto : isAutomatic config message = true
  · rw [if_pos hauto, username?_withWorkflowUser]
    by_cases hid : id = workflowUserId
    · simp [hauto, hid]
    · simp [hid]
  · rw [if_neg hauto, if_neg (by simp [hauto])]

@[simp] theorem posts_withAuthorFor :
    (c.withAuthorFor config message).content.posts = c.content.posts := by
  unfold withAuthorFor withWorkflowUser
  split
  · split <;> rfl
  · rfl

@[simp] theorem summary_withAuthorFor :
    (c.withAuthorFor config message).summary = c.summary := by
  unfold withAuthorFor withWorkflowUser
  split
  · split <;> rfl
  · rfl

@[simp] theorem backend_withAuthorFor :
    (c.withAuthorFor config message).backend = c.backend := by
  unfold withAuthorFor withWorkflowUser
  split
  · split <;> rfl
  · rfl

/-- Users have been added and posts, and nothing else has changed of what has been
made; the added users are authors of messages of bots. -/
structure Grown (c c' : Conversion) : Prop where
  content : c'.content =
    { c.content with users := c'.content.users, posts := c'.content.posts }
  /-- The users that were there are the same. -/
  kept {id : String} {user : Mattermost.User} :
    c.content.users.find? id = some user → c'.content.users.find? id = some user
  added {id : String} {user : Mattermost.User} : c'.content.users.find? id = some user →
    c.content.users.find? id = some user ∨
      ∃ password, user = (Mattermost.User.forWorkflows password).withinLimits.1

theorem Grown.of_content (hcontent : c'.content =
    { c.content with users := c.content.users, posts := c'.content.posts }) : c.Grown c' := by
  have husers : c'.content.users = c.content.users := by rw [hcontent]
  refine ⟨by rw [husers]; exact hcontent, fun h => ?_, fun h => ?_⟩
  · rwa [husers]
  · rw [husers] at h
    exact Or.inl h

theorem Grown.refl : c.Grown c := .of_content rfl

theorem Grown.trans {c'' : Conversion} (h : c.Grown c') (h' : c'.Grown c'') : c.Grown c'' := by
  refine ⟨by rw [h'.content, h.content], fun hfind => h'.kept (h.kept hfind), fun hfind => ?_⟩
  rcases h'.added hfind with hfind | hmade
  · exact h.added hfind
  · exact Or.inr hmade

theorem Beside.grown (h : c.Beside c') : c.Grown c' := .of_content (by rw [h.content])

theorem Grown.username?_of_some {name : String} (h : c.Grown c')
    (hname : c.username? id = some name) : c'.username? id = some name := by
  obtain ⟨user, hfind, rfl⟩ := Option.map_eq_some_iff.1 hname
  exact Option.map_eq_some_iff.2 ⟨user, h.kept hfind, rfl⟩

theorem grown_withAuthorFor : c.Grown (c.withAuthorFor config message) := by
  unfold withAuthorFor withWorkflowUser
  split
  · split
    · exact .refl
    next hnone =>
    -- the user is a new one, so the others are as they were
    refine ⟨rfl, fun {id user} hfind => ?_, fun {id user} hfind => ?_⟩
    · have hne : workflowUserId ≠ id := by
        rintro rfl
        exact hnone (Table.contains_iff.2 ⟨user, hfind⟩)
      exact (Table.find?_insert_of_ne hne).trans hfind
    · have hinsert := Table.find?_insert.symm.trans hfind
      split at hinsert
      · exact Or.inr ⟨c.password, (Option.some.inj hinsert).symm⟩
      · exact Or.inl hinsert
  · exact .refl

/-! ## The steps of a message -/

theorem authorOf_spec (id : String) (message : Slack.Message) (c : Conversion) :
    ∃ c', authorOf id message c = .ok (named? c.username? id) c' ∧ c.Beside c' := by
  unfold authorOf named?
  by_cases hempty : id.isEmpty = true
  · rw [if_pos hempty, if_pos hempty]
    exact ⟨_, rfl, beside_telling _⟩
  · rw [if_neg hempty, if_neg hempty]
    rw [Running.bind_get]
    cases c.username? id with
    | some name => exact ⟨c, rfl, Beside.refl⟩
    | none => exact ⟨_, rfl, beside_telling _⟩

theorem workflowAuthor_spec (c : Conversion) : ∃ author, workflowAuthor c = .ok author
    c.withWorkflowUser ∧ c.withWorkflowUser.username? workflowUserId = some author := by
  refine ⟨(c.withWorkflowUser.username? workflowUserId).getD workflowUsername, rfl, ?_⟩
  rw [username?_withWorkflowUser, if_pos rfl, Option.getD_some]

theorem onFiles_cases {α : Type} (error : FileFault → Error) (act : EStateM FileFault Files α)
    (c : Conversion) : (∃ value c', onFiles error act c = .ok value c' ∧ c.Beside c') ∨
      ∃ e c', onFiles error act c = .error e c' ∧ c.Beside c' := by
  unfold onFiles
  cases act c.files with
  | ok value files => exact Or.inl ⟨value, _, rfl, rfl, rfl, rfl⟩
  | error fault files => exact Or.inr ⟨_, _, rfl, rfl, rfl, rfl⟩

/-- An operation on files leaves everything else as it is. -/
theorem stateAfter_onFiles {α : Type} (error : FileFault → Error)
    (act : EStateM FileFault Files α) (c : Conversion) :
    Running.stateAfter (onFiles error act) c =
      { c with files := Running.stateAfter act c.files } := by
  unfold Running.stateAfter onFiles
  cases act c.files with
  | ok value files => rfl
  | error fault files => rfl

/-- What an operation on files keeps of them is kept by the step. -/
theorem keeps_onFiles {α : Type} {I : Files → Prop} {error : FileFault → Error}
    {act : EStateM FileFault Files α} (h : Running.Keeps I act) :
    Running.Keeps (fun c : Conversion => I c.files) (onFiles error act) := by
  intro c hc
  rw [stateAfter_onFiles]
  exact h c.files hc

theorem keeps_tell {I : Conversion → Prop} {lines : List LogLine}
    (h : ∀ c, I c → I (c.telling lines)) : Running.Keeps I (tell lines) := Running.keeps_modify h

theorem copyAttachment_cases (uploads : Uploads) (dir : String) (file : Slack.File)
    (c : Conversion) :
    (∃ path? c', copyAttachment uploads dir file c = .ok path? c' ∧ c.Beside c') ∨
      ∃ error c', copyAttachment uploads dir file c = .error error c' ∧ c.Beside c' := by
  unfold copyAttachment
  rcases onFiles_cases (.attachment file.id (attachmentPath file dir))
      (uploads.copyTo file.id (attachmentPath file dir)) c with
    ⟨copied, c₁, hcopy, hc₁⟩ | ⟨error, c₁, hcopy, hc₁⟩
  · rw [Running.bind_of_ok hcopy]
    cases copied with
    | true => exact Or.inl ⟨_, _, rfl, hc₁.trans (beside_telling _)⟩
    | false => exact Or.inl ⟨_, _, rfl, hc₁.trans (beside_telling _)⟩
  · rw [Running.bind_of_error hcopy]
    exact Or.inr ⟨error, c₁, rfl, hc₁⟩

theorem copyAttachments_cases (uploads : Uploads) (dir : String) (files : List Slack.File) :
    ∀ (met : List String) (c : Conversion),
      (∃ paths c', copyAttachments uploads dir met files c = .ok paths c' ∧ c.Beside c') ∨
        ∃ error c', copyAttachments uploads dir met files c = .error error c' ∧ c.Beside c' := by
  induction files with
  | nil => exact fun _ c => Or.inl ⟨[], c, rfl, Beside.refl⟩
  | cons file rest ih =>
    intro met c
    unfold copyAttachments
    split
    · exact ih met c
    rcases copyAttachment_cases uploads dir file c with
      ⟨path?, c₁, hcopy, hc₁⟩ | ⟨error, c₁, hcopy, hc₁⟩
    · rw [Running.bind_of_ok hcopy]
      -- the others are copied whether or not this one was
      rcases ih (file.id :: met) c₁ with ⟨paths, c₂, hrest, hc₂⟩ | ⟨error, c₂, hrest, hc₂⟩
      · cases path? with
        | none => exact Or.inl ⟨paths, c₂, hrest, hc₁.trans hc₂⟩
        | some path =>
          simp only []
          rw [Running.bind_of_ok hrest]
          exact Or.inl ⟨_, c₂, rfl, hc₁.trans hc₂⟩
      · cases path? with
        | none => exact Or.inr ⟨error, c₂, hrest, hc₁.trans hc₂⟩
        | some path =>
          simp only []
          rw [Running.bind_of_error hrest]
          exact Or.inr ⟨error, c₂, rfl, hc₁.trans hc₂⟩
    · rw [Running.bind_of_error hcopy]
      exact Or.inr ⟨error, c₁, rfl, hc₁⟩

theorem completed_cases (config : Config) (uploads : Uploads) (message : Slack.Message)
    (post : Post) (c : Conversion) :
    (∃ paths c', completed config uploads message post c =
        .ok ((propsFor config message).1.map fun props =>
          { post with props := props, attachments := paths }) c' ∧ c.Beside c' ∧
        (config.skipAttachments = true → paths = post.attachments)) ∨
      config.skipAttachments = false ∧ ∃ error c',
        completed config uploads message post c = .error error c' ∧ c.Beside c' := by
  have htell : tell (propsFor config message).2 c =
    .ok () (c.telling (propsFor config message).2) := rfl
  unfold completed
  rw [Running.bind_of_ok htell]
  cases (propsFor config message).1 with
  | none => exact Or.inl ⟨post.attachments, _, rfl, beside_telling _, fun _ => rfl⟩
  | some props =>
    simp only [Option.map_some]
    by_cases hskip : config.skipAttachments = true
    · rw [if_pos hskip]
      exact Or.inl ⟨post.attachments, _, rfl, beside_telling _, fun _ => rfl⟩
    · rw [if_neg hskip]
      rcases copyAttachments_cases uploads config.attachmentsDir message.attachedFiles []
          (c.telling (propsFor config message).2) with
        ⟨paths, c₁, hcopy, hc₁⟩ | ⟨error, c₁, hcopy, hc₁⟩
      · rw [Running.bind_of_ok hcopy]
        exact Or.inl ⟨paths, c₁, rfl, (beside_telling _).trans hc₁, fun h => absurd h hskip⟩
      · rw [Running.bind_of_error hcopy]
        exact Or.inr ⟨Bool.eq_false_iff.2 hskip, error, c₁, rfl, (beside_telling _).trans hc₁⟩

theorem started_spec (author text : String) (message : Slack.Message) (channel : Channel)
    (c : Conversion) : ∃ c', started author text message channel c =
      .ok (Post.plain author channel.name text message.createdAt) c' ∧ c.Beside c' :=
  ⟨_, rfl, beside_telling _⟩

/-! ## One message -/

/-- What fails only where files are copied succeeds where none are. -/
theorem of_skipAttachments {p q : Prop} (hskip : config.skipAttachments = true)
    (h : p ∨ config.skipAttachments = false ∧ q) : p := by
  rcases h with h | ⟨hfail, -⟩
  · exact h
  · rw [hskip] at hfail
    cases hfail

/-- What has come of a message is what is told of it, with the paths of files that
were copied. -/
structure Met (config : Config) (message : Slack.Message) (channel : Channel)
    (c : Conversion) (made : Option Post) (c' : Conversion) : Prop where
  beside : (c.withAuthorFor config message).Beside c'
  made : ∃ paths, (config.skipAttachments = true → paths = []) ∧
    made = (postOf? config (namesFor config c.username? message) message channel).map
      fun post => { post with attachments := paths }

theorem Met.posts {made : Option Post} (h : Met config message channel c made c') :
    c'.content.posts = c.content.posts := by rw [h.beside.content, posts_withAuthorFor]

theorem Met.summary {made : Option Post} (h : Met config message channel c made c') :
    c'.summary = c.summary := h.beside.summary.trans summary_withAuthorFor

theorem Met.backend {made : Option Post} (h : Met config message channel c made c') :
    c'.backend = c.backend := h.beside.backend.trans backend_withAuthorFor

theorem Met.grown {made : Option Post} (h : Met config message channel c made c') : c.Grown c' :=
  grown_withAuthorFor.trans h.beside.grown

theorem Met.username?_eq {made : Option Post} (h : Met config message channel c made c') :
    c'.username? = namesFor config c.username? message := by
  rw [h.beside.username?, username?_withAuthorFor]

/-- The post is what is told of the message, with the files that were copied for it. -/
theorem Met.exists_told {made : Option Post} (h : Met config message channel c made c')
    (hpost : made = some post) : ∃ told paths,
      postOf? config (namesFor config c.username? message) message channel = some told ∧
        post = { told with attachments := paths } := by
  obtain ⟨paths, -, hmade⟩ := h.made
  rw [hpost] at hmade
  obtain ⟨told, htold, rfl⟩ := Option.map_eq_some_iff.1 hmade.symm
  exact ⟨told, paths, htold, rfl⟩

/-- The author of the post is known by then. -/
theorem Met.exists_name {made : Option Post} (h : Met config message channel c made c')
    (hpost : made = some post) : ∃ id, c'.username? id = some post.user := by
  obtain ⟨told, paths, htold, rfl⟩ := h.exists_told hpost
  rw [h.username?_eq]
  obtain ⟨id, hid⟩ := exists_name_of_postOf? htold
  exact ⟨id, hid⟩

/-- Where no files are copied, the post is what is told. -/
theorem Met.eq_postOf? {made : Option Post} (h : Met config message channel c made c')
    (hskip : config.skipAttachments = true) :
    made = postOf? config (namesFor config c.username? message) message channel := by
  obtain ⟨paths, hpaths, hmade⟩ := h.made
  rw [hmade, hpaths hskip]
  cases hpost : postOf? config (namesFor config c.username? message) message channel with
  | none => rfl
  | some post =>
    obtain ⟨author, -, htold⟩ := Option.bind_eq_some_iff.1 hpost
    obtain ⟨props, -, rfl⟩ := Option.map_eq_some_iff.1 htold
    rfl

/-- An author has been looked for under an identifier, and the post is one without files. -/
theorem met_started {text : String} (hauto : isAutomatic config message = false)
    (hpost : postOf? config c.username? message channel = (named? c.username? id).map fun author =>
      Post.plain author channel.name text message.createdAt) :
    ∃ made c', (authorOf id message >>= fun
      | none => pure none
      | some author => do return some (← started author text message channel)) c = .ok made c' ∧
      Met config message channel c made c' := by
  have hnames : namesFor config c.username? message = c.username? := by
    rw [← username?_withAuthorFor, withAuthorFor_of_not hauto]
  obtain ⟨c₁, hauthor, hc₁⟩ := authorOf_spec id message c
  rw [Running.bind_of_ok hauthor]
  cases hname : named? c.username? id with
  | none =>
    refine ⟨none, c₁, rfl, (withAuthorFor_of_not hauto).symm ▸ hc₁, [], fun _ => rfl, ?_⟩
    rw [hnames, hpost, hname]
    rfl
  | some author =>
    obtain ⟨c₂, hstarted, hc₂⟩ := started_spec author text message channel c₁
    refine ⟨_, c₂, Running.bind_of_ok hstarted,
      (withAuthorFor_of_not hauto).symm ▸ hc₁.trans hc₂, [], fun _ => rfl, ?_⟩
    rw [hnames, hpost, hname]
    rfl

/-- The author is known, and the post is one that files may go with. -/
theorem met_completed {c₁ : Conversion}
    (hauthor : author? config (namesFor config c.username? message) message = some author)
    (hc₁ : (c.withAuthorFor config message).Beside c₁)
    (hkind : message.kind = .plain ∨ message.kind = .bot) :
    (∃ made c', (started author message.text message channel >>= fun post =>
        completed config uploads message post) c₁ = .ok made c' ∧
      Met config message channel c made c') ∨
    config.skipAttachments = false ∧ ∃ error c',
      (started author message.text message channel >>= fun post =>
        completed config uploads message post) c₁ = .error error c' ∧
        (c.withAuthorFor config message).Beside c' := by
  have hpost : postOf? config (namesFor config c.username? message) message channel =
      (propsFor config message).1.map fun props =>
        { Post.plain author channel.name message.text message.createdAt with props := props } := by
    rw [postOf?, hauthor, Option.bind_some]
    rcases hkind with hkind | hkind <;> simp only [extras?, wording, hkind]
  obtain ⟨c₂, hstarted, hc₂⟩ := started_spec author message.text message channel c₁
  rw [Running.bind_of_ok hstarted]
  rcases completed_cases config uploads message
      (Post.plain author channel.name message.text message.createdAt) c₂ with
    ⟨paths, c₃, hrun, hc₃, hpaths⟩ | ⟨hskip, error, c₃, hrun, hc₃⟩
  · refine Or.inl ⟨_, c₃, hrun, hc₁.trans (hc₂.trans hc₃), paths, hpaths, ?_⟩
    rw [hpost, Option.map_map]
    rfl
  · exact Or.inr ⟨hskip, error, c₃, hrun, hc₁.trans (hc₂.trans hc₃)⟩

/-- **A message becomes what is told of it**; the conversion fails only where files
are copied. -/
theorem postFor_spec (config : Config) (uploads : Uploads) (message : Slack.Message)
    (channel : Channel) (c : Conversion) :
    (∃ made c', postFor config uploads message channel c = .ok made c' ∧
      Met config message channel c made c') ∨
    config.skipAttachments = false ∧ ∃ error c',
      postFor config uploads message channel c = .error error c' ∧
        (c.withAuthorFor config message).Beside c' := by
  have htold : ∀ lines : List LogLine, isAutomatic config message = false →
      postOf? config c.username? message channel = none →
      ∃ made c', (tell lines >>= fun _ => pure none) c = .ok made c' ∧
        Met config message channel c made c' := by
    intro lines hauto hpost
    refine ⟨none, c.telling lines, rfl, (withAuthorFor_of_not hauto).symm ▸ beside_telling lines,
      [], fun _ => rfl, ?_⟩
    rw [← username?_withAuthorFor, withAuthorFor_of_not hauto, hpost]
    rfl
  unfold postFor
  cases hkind : message.kind with
  | channelTopic | channelPurpose | channelName =>
    refine Or.inl (met_started (by simp [isAutomatic, hkind]) ?_)
    simp only [postOf?, author?, extras?, wording, hkind, Option.map_some]
    cases named? c.username? message.user <;> rfl
  | joinLeave | me | unsupported =>
    refine Or.inl (htold _ (by simp [isAutomatic, hkind]) ?_)
    simp only [postOf?, author?, hkind, Option.bind_none]
  | fileComment =>
    cases hcomment : message.comment with
    | none =>
      refine Or.inl (htold _ (by simp [isAutomatic, hkind]) ?_)
      simp only [postOf?, author?, hkind, hcomment, Option.bind_none]
    | some comment =>
      refine Or.inl (met_started (by simp [isAutomatic, hkind]) ?_)
      simp only [postOf?, author?, extras?, wording, hkind, hcomment, Option.map_some,
        Option.bind_some]
      cases named? c.username? comment.user <;> rfl
  | plain =>
    have hauto : isAutomatic config message = false := by simp [isAutomatic, hkind]
    have hsame : c.withAuthorFor config message = c := withAuthorFor_of_not hauto
    obtain ⟨c₁, hauthor, hc₁⟩ := authorOf_spec message.user message c
    rw [← hsame] at hc₁
    have htold : author? config (namesFor config c.username? message) message =
        named? c.username? message.user := by
      rw [← username?_withAuthorFor, hsame]
      simp only [author?, hkind]
    simp only []
    rw [Running.bind_of_ok hauthor]
    cases hname : named? c.username? message.user with
    | none =>
      refine Or.inl ⟨none, c₁, rfl, hc₁, [], fun _ => rfl, ?_⟩
      rw [postOf?, htold, hname]
      rfl
    | some author => exact met_completed (htold.trans hname) hc₁ (Or.inl hkind)
  | bot =>
    simp only []
    by_cases himport : config.importWorkflowMessages = true
    · -- the user for messages of bots is made first, if he is not there
      have hauto : isAutomatic config message = true := by simp [isAutomatic, himport, hkind]
      have hc₁ : c.withAuthorFor config message = c.withWorkflowUser := if_pos hauto
      obtain ⟨author, hrun, hname⟩ := workflowAuthor_spec c
      rw [if_pos himport, Running.bind_of_ok hrun]
      refine met_completed ?_ (hc₁ ▸ Beside.refl) (Or.inr hkind)
      simp only [author?, hkind, if_pos himport]
      rw [← username?_withAuthorFor, hc₁, hname]
    · rw [if_neg himport]
      refine Or.inl (htold _ (by simp [isAutomatic, himport]) ?_)
      simp only [postOf?, author?, hkind, if_neg himport, Option.bind_none]

end Conversion

end ChatImport
