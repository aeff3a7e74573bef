import ChatImport.Conversion.Channels
import ChatImport.Proofs.Mattermost.Limits
import Mathlib.Data.List.Forall2
/-!
# What becomes of the channels of a workspace

The channels of a workspace are taken one after the other. A lonely conversation is
left out, and of every other channel one of the import is made and brought within the
limits (`Mattermost.Channel.allOfWorkspace_eq`): what is made depends on nothing but
the channel and the users who are known.

A name goes through two normalisations on its way to a handle, one where the channel is
made and one where it is limited. Whatever the name is, the second has the last word:
`Mattermost.Channel.allOfWorkspace_made` says of every channel that is made what it
keeps and what its handle is.
-/

namespace ChatImport

namespace Mattermost.Channel

variable {users : Table User} {channels : List Slack.Channel} {made : Channel}

/-- **The channels of an import** are those of the workspace that are not lonely, each
as it is made and limited. -/
theorem allOfWorkspace_eq : (allOfWorkspace users channels).1 =
    (channels.filter fun channel => !isLonely users channel).map fun channel =>
      (ofWorkspace users channel).withinLimits.1 := by
  induction channels with
  | nil => rfl
  | cons channel rest ih =>
    unfold allOfWorkspace
    by_cases hlonely : isLonely users channel = true
    · rw [if_pos hlonely, List.filter_cons_of_neg (by simp [hlonely])]
      exact ih
    · rw [if_neg hlonely, List.filter_cons_of_pos (by simp [hlonely]), List.map_cons, ← ih]

/-- Channels that are no conversations are never lonely. -/
theorem allOfWorkspace_eq_map (h : ∀ channel ∈ channels, channel.kind.isDirect = false) :
    (allOfWorkspace users channels).1 =
      channels.map fun channel => (ofWorkspace users channel).withinLimits.1 := by
  rw [allOfWorkspace_eq, List.filter_eq_self.2 fun channel hmem => by
    simp [isLonely, h channel hmem]]

theorem mem_allOfWorkspace : made ∈ (allOfWorkspace users channels).1 ↔
    ∃ channel ∈ channels, isLonely users channel = false ∧
      made = (ofWorkspace users channel).withinLimits.1 := by
  simp only [allOfWorkspace_eq, List.mem_map, List.mem_filter, Bool.not_eq_true']
  constructor
  · rintro ⟨channel, ⟨hmem, hlonely⟩, rfl⟩
    exact ⟨channel, hmem, hlonely, rfl⟩
  · rintro ⟨channel, hmem, hlonely, rfl⟩
    exact ⟨channel, ⟨hmem, hlonely⟩, rfl⟩

/-- A channel of an import comes of one of the workspace, and but for crowds it
has the same kind. -/
theorem exists_of_mem_allOfWorkspace (h : made ∈ (allOfWorkspace users channels).1) :
    ∃ channel ∈ channels, made.kind =
      if isCrowd users channel then .inviteOnly else channel.kind := by
  obtain ⟨channel, hmem, -, rfl⟩ := mem_allOfWorkspace.1 h
  exact ⟨channel, hmem, kind_withinLimits _⟩

/-- Only groups are crowds. -/
theorem kind_of_mem_allOfWorkspace {kind : ChannelKind}
    (hkind : ∀ channel ∈ channels, channel.kind = kind)
    (h : made ∈ (allOfWorkspace users channels).1) :
    made.kind = kind ∨ kind = .group ∧ made.kind = .inviteOnly := by
  obtain ⟨channel, hmem, hmade⟩ := exists_of_mem_allOfWorkspace h
  rw [hkind channel hmem] at hmade
  by_cases hcrowd : isCrowd users channel = true
  · rw [if_pos hcrowd] at hmade
    refine Or.inr ⟨?_, hmade⟩
    simp only [isCrowd, Bool.and_eq_true, beq_iff_eq] at hcrowd
    rw [← hkind channel hmem, hcrowd.1]
  · rw [if_neg hcrowd] at hmade
    exact Or.inl hmade

/-- What a channel of the import has of the one that it was made of. -/
structure MadeOf (users : Table User) (channel : Slack.Channel) (made : Channel) : Prop where
  id : made.id = channel.id
  exportName : made.exportName = channel.exportName
  /-- The members are the known ones, in their order. -/
  members : made.members = channel.members.filter users.contains
  topic : made.topic = channel.topic
  /-- The handle is the identifier in lower case, or it fits. -/
  handle : made.kind ≠ .direct → made.name = lowerCase made.id ∨ Handle.Fits made.name

theorem madeOf_withinLimits (users : Table User) (channel : Slack.Channel) :
    MadeOf users channel (ofWorkspace users channel).withinLimits.1 := by
  have hsame := withinLimits_eq (ofWorkspace users channel)
  refine ⟨by rw [hsame]; rfl, by rw [hsame]; rfl, by rw [hsame]; rfl, by rw [hsame]; rfl,
    fun hkind => ?_⟩
  have hid : (ofWorkspace users channel).withinLimits.1.id = (ofWorkspace users channel).id := by
    rw [hsame]
  rw [kind_withinLimits] at hkind
  rw [hid]
  exact (fits_or_eq_lowerCase hkind).symm

/-- **Every channel that is made** keeps identifier, name in the export, known members
and topic of the one that it is made of, in the order of these. Unless it is direct its
handle is its identifier in lower case, or it is made of the characters of handles and
two to sixty-four octets long. -/
theorem allOfWorkspace_made (users : Table User) (channels : List Slack.Channel) :
    List.Forall₂ (MadeOf users) (channels.filter fun channel => !isLonely users channel)
      (allOfWorkspace users channels).1 := by
  rw [allOfWorkspace_eq, List.forall₂_map_right_iff, List.forall₂_same]
  exact fun channel _ => madeOf_withinLimits users channel

end Mattermost.Channel

end ChatImport
