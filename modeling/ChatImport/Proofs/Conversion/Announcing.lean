import ChatImport.Proofs.Conversion.Assembling
import ChatImport.Proofs.Mattermost.Warnings
/-!
# The author of messages of bots is made once

The user for messages of bots and workflows is made in the middle of the conversion of a
message, and the log says so. Whatever else the log says, it says in other words, so the
lines that say it count how often he was made. `Conversion.Announced` has that number: one
if he is there, and none if he is not. Every step of a conversion keeps it, wherever it ends
(`Conversion.announced_convertWith`).
-/

namespace ChatImport

open Mattermost (Post Channel User)
open Running (Keeps keeps_pure keeps_throw keeps_get keeps_get_bind keeps_modify stateAfter)

/-! ## The notice -/

/-- What the log says when the user for messages of bots is made. -/
def creationNotice : LogLine :=
  .info ("Created user " ++ workflowUsername ++ " for bot and workflow messages")

/-- How often the log says so. -/
def creations (log : Array LogLine) : Nat := log.toList.count creationNotice

variable {log : Array LogLine} {line : LogLine} {lines : List LogLine}

/-- It is said on the course of the run. -/
theorem ne_of_level (h : line.level ≠ .info) : line ≠ creationNotice :=
  fun heq => h (heq ▸ rfl)

theorem debug_ne (text : String) : LogLine.debug text ≠ creationNotice := ne_of_level nofun

theorem warn_ne (text : String) : LogLine.warn text ≠ creationNotice := ne_of_level nofun

theorem error_ne (text : String) : LogLine.error text ≠ creationNotice := ne_of_level nofun

/-- What ends otherwise says something else. -/
theorem info_ne {front : String} (ending : String) {c : Char}
    (hend : ending.toList.getLast? = some c) (hc : c ≠ 's') :
    LogLine.info (front ++ ending) ≠ creationNotice := by
  intro heq
  have hlast : (front ++ ending).toList.getLast? = some 's' :=
    congrArg (fun line : LogLine => line.text.toList.getLast?) heq
  rw [String.toList_append, List.getLast?_append, hend, Option.some_or] at hlast
  exact hc (Option.some.inj hlast)

theorem notMem_singleton (h : line ≠ creationNotice) : creationNotice ∉ [line] :=
  fun hmem => h (List.mem_singleton.1 hmem).symm

/-- Warnings say something else. -/
theorem notMem_of_warn (h : ∀ line ∈ lines, line.level = .warn) : creationNotice ∉ lines :=
  fun hmem => nomatch h _ hmem

theorem creations_push (h : line ≠ creationNotice) : creations (log.push line) = creations log := by
  rw [creations, Array.toList_push, List.count_append, List.count_singleton,
    if_neg (by simpa using h)]
  rfl

theorem creations_append (h : creationNotice ∉ lines) :
    creations (log ++ lines) = creations log := by
  rw [creations, Array.toList_appendList, List.count_append, List.count_eq_zero.2 h]
  rfl

/-! ## Threads and desks -/

namespace Threads

variable {n : Nat}

/-- The log of the threads says so as often as before. -/
abbrev Unannounced {α : Type} (n : Nat) (act : EStateM Error Threads α) : Prop :=
  Keeps (fun t => creations t.log = n) act

theorem unannounced_note (h : line ≠ creationNotice) : Unannounced n (note line) :=
  keeps_modify fun _ ht => (creations_push h).trans ht

theorem stateAfter_onBackend {α : Type} (act : EStateM Error Backend α) (t : Threads) :
    stateAfter (onBackend act) t = { t with backend := stateAfter act t.backend } := by
  unfold stateAfter onBackend
  cases act t.backend with
  | ok value backend => rfl
  | error error backend => rfl

theorem unannounced_onBackend {α : Type} {act : EStateM Error Backend α} :
    Unannounced n (onBackend act) := by
  intro t ht
  rw [stateAfter_onBackend]
  exact ht

theorem unannounced_put {id : String} {post : Post} : Unannounced n (put id post) :=
  fun _ ht => ht

theorem unannounced_has {id : String} : Unannounced n (has id) := by
  refine keeps_get.bind fun t => ?_
  split
  · exact keeps_pure
  · split
    · exact keeps_pure
    · exact unannounced_onBackend

theorem unannounced_lookup {id : String} : Unannounced n (lookup id) := by
  refine keeps_get.bind fun t => ?_
  split
  · exact keeps_pure
  · split
    · exact keeps_pure
    · refine unannounced_onBackend.bind fun text? => ?_
      split
      · exact keeps_pure
      · refine (unannounced_note (debug_ne _)).bind fun _ => ?_
        split
        · exact keeps_throw
        · exact unannounced_put.bind fun _ => keeps_pure

theorem unannounced_flush : Unannounced n flush := by
  refine keeps_get.bind fun t => ?_
  split
  · exact keeps_pure
  · dsimp only
    split
    · exact keeps_pure
    · exact (unannounced_note (debug_ne _)).bind fun _ => unannounced_onBackend

end Threads

namespace Desk

variable {n : Nat} {message : Slack.Message} {post : Post} {channel : Channel} {w : Bool}

/-- The log of the desk says so as often as before. -/
abbrev Unannounced {α : Type} (n : Nat) (act : EStateM Error Desk α) : Prop :=
  Keeps (fun d => creations d.threads.log = n) act

theorem stateAfter_onThreads {α : Type} (act : EStateM Error Threads α) (d : Desk) :
    stateAfter (onThreads act) d = { d with threads := stateAfter act d.threads } := by
  unfold stateAfter onThreads
  cases act d.threads with
  | ok value threads => rfl
  | error error threads => rfl

theorem unannounced_onThreads {α : Type} {act : EStateM Error Threads α}
    (h : Threads.Unannounced n act) : Unannounced n (onThreads act) := by
  intro d hd
  rw [stateAfter_onThreads]
  exact h d.threads hd

theorem unannounced_placeReply : Unannounced n (placeReply message post channel w) := by
  refine (unannounced_onThreads Threads.unannounced_lookup).bind fun handle? => ?_
  cases handle? with
  | none =>
    exact (unannounced_onThreads (Threads.unannounced_note (error_ne _))).bind fun _ => keeps_pure
  | some handle =>
    refine keeps_get_bind fun d hd => ?_
    -- what is set is the desk itself with another root
    split
    · exact hd
    · exact hd

theorem unannounced_placeRoot : Unannounced n (placeRoot message post channel) := by
  refine (unannounced_onThreads Threads.unannounced_has).bind fun taken => ?_
  have hput : Unannounced n (do
      let _ ← onThreads (Threads.put message.timestamp post)
      return if taken then Placement.overwroteRoot else .root) :=
    (unannounced_onThreads Threads.unannounced_put).bind fun _ => keeps_pure
  cases taken with
  | true =>
    exact (unannounced_onThreads (Threads.unannounced_note (warn_ne _))).bind fun _ => hput
  | false => exact hput

theorem unannounced_place : Unannounced n (place message post channel w) := by
  have hclaim : Unannounced n (claim post.createAt) := fun _ h => h
  refine hclaim.bind fun time => ?_
  dsimp only
  split
  · exact unannounced_placeReply
  · exact unannounced_placeRoot

end Desk

/-! ## Conversions -/

namespace Mattermost

theorem Limits.level_of_mem_warnings {texts : List Limits.Held} (h : line ∈ Limits.warnings texts) :
    line.level = .warn := by
  obtain ⟨text, -, rfl⟩ := List.mem_map.1 h
  rfl

/-- Of users there are only warnings. -/
theorem User.level_of_mem_withinLimits {u : User} (h : line ∈ u.withinLimits.2) :
    line.level = .warn := by
  rw [User.withinLimits_eq_told, List.mem_append] at h
  rcases h with h | h
  · unfold User.filledEmail at h
    split at h
    · rw [List.mem_singleton.1 h]
      rfl
    · cases h
  · exact Limits.level_of_mem_warnings h

/-- And of channels too. -/
theorem Channel.level_of_mem_withinLimits {c : Channel} (h : line ∈ c.withinLimits.2) :
    line.level = .warn := by
  by_cases hkind : c.kind = .direct
  · rw [Channel.withinLimits, if_pos hkind] at h
    cases h
  · have hsnd := congrArg Prod.snd (Channel.withinLimits_eq_told hkind)
    exact Limits.level_of_mem_warnings (hsnd ▸ h)

theorem Channel.level_of_mem_allOfWorkspace {users : Table User} {channels : List Slack.Channel}
    (h : line ∈ (allOfWorkspace users channels).2) : line.level = .warn := by
  induction channels with
  | nil => cases h
  | cons channel rest ih =>
    unfold allOfWorkspace at h
    dsimp only at h
    split at h
    · rcases List.mem_cons.1 h with rfl | h
      · rfl
      · exact ih h
    · rcases List.mem_append.1 h with h | h
      · exact Channel.level_of_mem_withinLimits h
      · exact ih h

end Mattermost

namespace Conversion

variable {config : Config} {uploads : Uploads} {source : StoreSource} {message : Slack.Message}
variable {channel : Channel} {channels : List Channel} {name : String} {c : Conversion}

/-- The user for messages of bots has been made once if he is there, and not at all otherwise. -/
def Announced (c : Conversion) : Prop :=
  creations c.log = if c.content.users.contains workflowUserId then 1 else 0

theorem Announced.telling (h : c.Announced) (hlines : creationNotice ∉ lines) :
    (c.telling lines).Announced := (creations_append hlines).trans h

theorem announced_tell (h : creationNotice ∉ lines) : Keeps Announced (tell lines) :=
  keeps_tell fun _ hc => hc.telling h

theorem contains_users (c : Conversion) (id : String) :
    c.content.users.contains id = (c.username? id).isSome := by
  rw [username?, Option.isSome_map, Table.contains]

theorem contains_withWorkflowUser :
    c.withWorkflowUser.content.users.contains workflowUserId = true := by
  rw [contains_users, username?_withWorkflowUser, if_pos rfl]
  rfl

theorem log_withWorkflowUser (h : c.content.users.contains workflowUserId = false) :
    c.withWorkflowUser.log =
      c.log ++ ((User.forWorkflows c.password).withinLimits.2 ++ [creationNotice]) := by
  rw [Conversion.withWorkflowUser, if_neg (by simp [h])]
  rfl

/-- **He is made if he is not there**, and then the log says so. -/
theorem Announced.withWorkflowUser (h : c.Announced) : c.withWorkflowUser.Announced := by
  cases hthere : c.content.users.contains workflowUserId with
  | true =>
    rw [Conversion.withWorkflowUser, if_pos hthere]
    exact h
  | false =>
    have hwarned : creationNotice ∉ (User.forWorkflows c.password).withinLimits.2 :=
      notMem_of_warn fun _ => User.level_of_mem_withinLimits
    have hbefore : creations c.log = 0 := by
      rw [Announced, hthere] at h
      exact h
    rw [Announced, contains_withWorkflowUser, if_pos rfl, log_withWorkflowUser hthere, creations,
      Array.toList_appendList, List.count_append, List.count_append, List.count_eq_zero.2 hwarned,
      List.count_singleton_self, ← creations, hbefore]

theorem announced_authorOf {id : String} : Keeps Announced (authorOf id message) := by
  unfold authorOf
  split
  · exact (announced_tell (notMem_singleton (warn_ne _))).bind fun _ => keeps_pure
  · refine keeps_get.bind fun c => ?_
    split
    · exact keeps_pure
    · exact (announced_tell (notMem_singleton (warn_ne _))).bind fun _ => keeps_pure

theorem announced_started {author text : String} :
    Keeps Announced (started author text message channel) := by
  refine (announced_tell ?_).bind fun _ => keeps_pure
  unfold Slack.Timestamp.notice
  split
  · exact List.not_mem_nil
  · exact notMem_singleton (warn_ne _)

theorem announced_copyAttachment {dir : String} {file : Slack.File} :
    Keeps Announced (copyAttachment uploads dir file) := by
  have hcopy : Keeps Announced (onFiles (.attachment file.id (attachmentPath file dir))
      (uploads.copyTo file.id (attachmentPath file dir))) := by
    intro c hc
    rw [stateAfter_onFiles]
    exact hc
  refine hcopy.bind fun copied => ?_
  cases copied with
  | true => exact (announced_tell (notMem_singleton (debug_ne _))).bind fun _ => keeps_pure
  | false => exact (announced_tell (notMem_singleton (warn_ne _))).bind fun _ => keeps_pure

theorem announced_copyAttachments {dir : String} {met : List String} {files : List Slack.File} :
    Keeps Announced (copyAttachments uploads dir met files) := by
  induction files generalizing met with
  | nil => exact keeps_pure
  | cons file rest ih =>
    unfold copyAttachments
    split
    · exact ih
    · refine announced_copyAttachment.bind fun path? => ?_
      cases path? with
      | none => exact ih
      | some path => exact ih.bind fun _ => keeps_pure

theorem notMem_propsFor : creationNotice ∉ (propsFor config message).2 := by
  unfold propsFor
  dsimp only
  split
  · exact List.not_mem_nil
  split
  · exact List.not_mem_nil
  split
  · exact notMem_singleton (warn_ne _)
  · exact notMem_singleton (warn_ne _)

theorem announced_completed {post : Post} :
    Keeps Announced (completed config uploads message post) := by
  refine (announced_tell notMem_propsFor).bind fun _ => ?_
  split
  · exact keeps_pure
  · split
    · exact keeps_pure
    · exact announced_copyAttachments.bind fun _ => keeps_pure

/-- An author has been looked for under an identifier, and the post is one without files. -/
theorem announced_plainly {id text : String} : Keeps Announced (authorOf id message >>= fun
    | none => pure none
    | some author => do return some (← started author text message channel)) := by
  refine announced_authorOf.bind fun author? => ?_
  cases author? with
  | none => exact keeps_pure
  | some author => exact announced_started.bind fun _ => keeps_pure

theorem announced_workflowAuthor : Keeps Announced workflowAuthor := by
  have hmodify : Keeps Announced (modify Conversion.withWorkflowUser : Converting Unit) :=
    keeps_modify fun _ hc => hc.withWorkflowUser
  exact hmodify.bind fun _ => keeps_get.bind fun _ => keeps_pure

/-- **The conversion of a message keeps it**, whatever the kind of the message. -/
theorem announced_postFor : Keeps Announced (postFor config uploads message channel) := by
  have htold : ∀ line : LogLine, line ≠ creationNotice →
      Keeps Announced (tell [line] >>= fun _ => pure (none : Option Post)) :=
    fun _ h => (announced_tell (notMem_singleton h)).bind fun _ => keeps_pure
  unfold postFor
  cases message.kind with
  | plain =>
    refine announced_authorOf.bind fun author? => ?_
    cases author? with
    | none => exact keeps_pure
    | some author => exact announced_started.bind fun _ => announced_completed
  | bot =>
    dsimp only
    split
    · exact announced_workflowAuthor.bind fun author =>
        announced_started.bind fun _ => announced_completed
    · exact htold _ (debug_ne _)
  | fileComment =>
    dsimp only
    split
    · exact htold _ (warn_ne _)
    · exact announced_plainly
  | channelTopic | channelPurpose | channelName => exact announced_plainly
  | joinLeave | me => exact htold _ (debug_ne _)
  | unsupported => exact htold _ (warn_ne _)

end Conversion

/-! ## Channels -/

namespace ChannelRun

variable {config : Config} {uploads : Uploads} {message : Slack.Message}
variable {channel : Channel}

/-- As often as the log says so of the conversion. -/
abbrev Announced (r : ChannelRun) : Prop := r.conversion.Announced

theorem stateAfter_converting {α : Type} (act : Converting α) (r : ChannelRun) :
    stateAfter (converting act) r = { r with conversion := stateAfter act r.conversion } := by
  unfold stateAfter converting
  cases act r.conversion with
  | ok value c => rfl
  | error error c => rfl

theorem stateAfter_atDesk {α : Type} (act : EStateM Error Desk α) (r : ChannelRun) :
    stateAfter (atDesk act) r = r.after (stateAfter act r.desk) := by
  unfold stateAfter atDesk
  cases act r.desk with
  | ok value d => rfl
  | error error d => rfl

theorem announced_converting {α : Type} {act : Converting α}
    (h : Keeps Conversion.Announced act) : Keeps Announced (converting act) := by
  intro r hr
  rw [Announced, stateAfter_converting]
  exact h r.conversion hr

/-- Work at the desk has nothing to do with the users. -/
theorem announced_atDesk {α : Type} {act : EStateM Error Desk α}
    (h : ∀ n, Desk.Unannounced n act) : Keeps Announced (atDesk act) := by
  intro r hr
  rw [Announced, stateAfter_atDesk]
  exact h _ r.desk hr

theorem announced_count {f : Summary → Summary} : Keeps Announced (count f) :=
  keeps_modify fun _ hr => hr

theorem announced_take : Keeps Announced (take config uploads channel message) := by
  refine (announced_converting Conversion.announced_postFor).bind fun post? => ?_
  cases post? with
  | none => exact announced_count
  | some post =>
    exact (announced_atDesk fun _ => Desk.unannounced_place).bind fun _ => announced_count

theorem announced_takeAll {messages : List Slack.Message} :
    Keeps Announced (takeAll config uploads channel messages) := by
  induction messages with
  | nil => exact keeps_pure
  | cons message rest ih => exact announced_take.bind fun _ => ih

end ChannelRun

namespace Conversion

variable {config : Config} {uploads : Uploads} {source : StoreSource} {c : Conversion}
variable {channel : Channel} {channels : List Channel} {name : String} {e : Export}

theorem announced_assembled {messages : List Slack.Message} :
    Keeps ChannelRun.Announced (assembled config uploads channel messages) :=
  ChannelRun.announced_takeAll.bind fun _ =>
    (ChannelRun.announced_atDesk fun _ =>
      Desk.unannounced_onThreads Threads.unannounced_flush).bind fun _ =>
        keeps_get.bind fun _ => keeps_pure

theorem announced_channelPosts {messages : List Slack.Message} :
    Keeps Announced (channelPosts config uploads source name channel messages) := by
  intro c hc
  have hassembled : Keeps ChannelRun.Announced (assembled config uploads channel messages) :=
    announced_assembled
  have hr := hassembled (.start c (source.storeFor name)) hc
  unfold stateAfter channelPosts at *
  cases hrun : assembled config uploads channel messages (.start c (source.storeFor name)) with
  | ok posts r =>
    rw [hrun] at hr
    exact hr
  | error error r =>
    rw [hrun] at hr
    exact Announced.telling hr (notMem_singleton (error_ne _))

theorem announced_addPosts {messages : List Slack.Message} :
    Keeps Announced (addPosts config uploads source channels name messages) := by
  unfold addPosts
  split
  · exact announced_tell (notMem_singleton (warn_ne _))
  · exact announced_channelPosts.bind fun posts =>
      (announced_tell (notMem_singleton (debug_ne _))).bind fun _ => keeps_modify fun _ hc => hc

theorem announced_addAllPosts {entries : List (String × List Slack.Message)} :
    Keeps Announced (addAllPosts config uploads source channels entries) := by
  induction entries with
  | nil => exact keeps_pure
  | cons entry rest ih => exact announced_addPosts.bind fun _ => ih

/-! ## Whole conversions -/

/-- Users of the workspace are not made for messages of bots. -/
theorem Announced.withUsers {service : Option String} {members : List Slack.User}
    (h : c.Announced) (hmembers : ∀ member ∈ members, member.id ≠ workflowUserId) :
    (c.withUsers service members).Announced := by
  refine List.foldlRecOn (motive := Announced) members _
    (h.telling (notMem_singleton (by decide))) fun c hc member hmem => ?_
  have hwarned : creationNotice ∉ (User.ofWorkspace service member).withinLimits.2 :=
    notMem_of_warn fun _ => User.level_of_mem_withinLimits
  have hother : (c.content.users.insert member.id
      (User.ofWorkspace service member).withinLimits.1).contains workflowUserId =
        c.content.users.contains workflowUserId := by
    rw [Table.contains_insert, beq_eq_false_iff_ne.2 (hmembers member hmem), Bool.false_or]
  change creations (c.log ++ (User.ofWorkspace service member).withinLimits.2) =
    if (c.content.users.insert member.id
      (User.ofWorkspace service member).withinLimits.1).contains workflowUserId then 1 else 0
  rw [creations_append hwarned, hother]
  exact hc

theorem Announced.withChannels (h : c.Announced) : (c.withChannels e).Announced := by
  have hwarned : ∀ listed : List Slack.Channel,
      creationNotice ∉ (Channel.allOfWorkspace c.content.users listed).2 :=
    fun _ => notMem_of_warn fun _ => Channel.level_of_mem_allOfWorkspace
  have hbegin : creationNotice ≠ .info "Transforming channels" := by decide
  refine (creations_append ?_).trans h
  simp only [List.mem_append, List.mem_cons, hwarned, hbegin, or_self, not_false_eq_true]

theorem Announced.withMemberships (h : c.Announced) : c.withMemberships.Announced := by
  have hsame : c.withMemberships.content.users.contains workflowUserId =
      c.content.users.contains workflowUserId := by
    change (c.content.users.map _).contains workflowUserId = _
    rw [Table.contains, Table.find?_map, Option.isSome_map, Table.contains]
  have htold : (c.telling [.info "Populating user memberships"]).Announced :=
    h.telling (notMem_singleton (by decide))
  unfold Announced
  rw [hsame]
  exact htold

theorem Announced.withMemberNames (h : c.Announced) : c.withMemberNames.Announced :=
  h.telling (notMem_singleton (by decide))

theorem notMem_notices (s : Summary) : creationNotice ∉ s.notices := by
  unfold Summary.notices
  have hfirst : ∀ front, creationNotice ≠ .info (front ++ "% of messages imported)") :=
    fun _ => (info_ne _ rfl (by decide)).symm
  have hsecond : ∀ front, creationNotice ≠ .info (front ++ " messages skipped") :=
    fun _ => (info_ne _ rfl (by decide)).symm
  split
  · simp only [List.mem_cons, hfirst, hsecond, List.not_mem_nil, or_self, not_false_eq_true]
  · simp only [List.mem_cons, hfirst, List.not_mem_nil, or_self, not_false_eq_true]

theorem announced_convertPosts : Keeps Announced (convertPosts config source e) :=
  (announced_tell (notMem_singleton (info_ne " thread storage" rfl (by decide)))).bind
    fun _ => keeps_get.bind fun _ => announced_addAllPosts

/-- **Every conversion keeps it** if nobody in the workspace has the identifier of the user for
messages of bots. -/
theorem announced_convertWith (hmembers : ∀ member ∈ e.users, member.id ≠ workflowUserId) :
    Keeps Announced (convertWith config source e) := by
  have hlast : Keeps Announced (get >>= fun c => tell c.summary.notices) :=
    keeps_get.bind fun c => announced_tell (notMem_notices _)
  refine Keeps.bind (keeps_modify fun _ hc => hc.withUsers hmembers) fun _ => ?_
  split
  · refine Keeps.bind (keeps_modify fun _ hc =>
      ((hc.withChannels).withMemberships).withMemberNames) fun _ => ?_
    split
    · exact announced_convertPosts.bind fun _ => hlast
    · exact hlast
  · exact hlast

end Conversion

end ChatImport
