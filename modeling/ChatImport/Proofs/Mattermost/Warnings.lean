import ChatImport.Proofs.Mattermost.Limits
import ChatImport.Thread.Assembly
/-!
# What the log says of cuts

Whoever reads the log wants to know which texts have not come through whole. Of channels
and users he learns it: each of their texts that is held against a limit goes with a
warning (`Limits.Held`), and the log has the warnings of those texts of which the limit has
taken something away, one each and in their order, and nothing else (`Limits.warnings`). An
address that is filled in is all that it tells beside that.

Of posts he does not. The text of a post is cut where the post is placed, and to place a
post whose text has been cut before is the same in every respect, the log included. So no
line of the log can be about the cut. `withinLimits_told` has all three.
-/

namespace ChatImport

namespace Mattermost

/-! ## Texts and limits -/

namespace Limits

/-- A text that is held against a limit. -/
structure Held where
  /-- The text as it was. -/
  given : String
  /-- What the limit leaves of it. -/
  left : String
  /-- What there is to say if that is less. -/
  warning : String

/-- A text that may have so many characters. -/
def Held.chars (limit : Nat) (warning given : String) : Held :=
  ⟨given, takeChars limit given, warning⟩

/-- A text that may have so many octets. -/
def Held.octets (limit : Nat) (warning given : String) : Held :=
  ⟨given, takeOctets limit given, warning⟩

/-- One warning for each text of which something is taken away. -/
def warnings (texts : List Held) : List LogLine :=
  (texts.filter fun text => text.left ≠ text.given).map fun text => .warn text.warning

variable {limit : Nat} {warning s : String}

theorem warnings_append {texts others : List Held} :
    warnings (texts ++ others) = warnings texts ++ warnings others := by
  rw [warnings, List.filter_append, List.map_append]
  rfl

/-- Nothing is told of texts that are left as they are. -/
theorem warnings_eq_nil {texts : List Held} :
    warnings texts = [] ↔ ∀ text ∈ texts, text.left = text.given := by
  simp only [warnings, List.map_eq_nil_iff, List.filter_eq_nil_iff, decide_eq_true_iff, not_not]

/-- What is told of one text. -/
theorem warnings_singleton (text : Held) :
    warnings [text] = if text.left = text.given then [] else [.warn text.warning] := by
  split
  · next hkept => exact warnings_eq_nil.2 (List.forall_mem_singleton.2 hkept)
  · next hcut =>
    rw [warnings, List.filter_cons_of_pos (by simpa using hcut)]
    rfl

/-- **A text that is cut to so many characters is told of**, and no other. -/
theorem chars_told : chars limit warning s =
    ((Held.chars limit warning s).left, warnings [Held.chars limit warning s]) := by
  rw [warnings_singleton]
  simp only [chars, Held.chars, takeChars_eq_self]
  by_cases hfits : charCount s ≤ limit
  · rw [if_neg (Nat.not_lt.2 hfits), if_pos hfits, takeChars_of_le hfits]
  · rw [if_pos (Nat.not_le.1 hfits), if_neg hfits]

/-- And so is one that is cut to so many octets. -/
theorem octets_told : octets limit warning s =
    ((Held.octets limit warning s).left, warnings [Held.octets limit warning s]) := by
  rw [warnings_singleton]
  simp only [octets, Held.octets, takeOctets_eq_self]
  by_cases hfits : s.utf8ByteSize ≤ limit
  · rw [if_neg (Nat.not_lt.2 hfits), if_pos hfits, takeOctets_of_le hfits]
  · rw [if_pos (Nat.not_le.1 hfits), if_neg hfits]

end Limits

open Limits (Held warnings)

/-! ## Channels -/

namespace Channel

/-- The trimmed name, from which the handle is taken. -/
def heldName (c : Channel) : Held :=
  .octets 64 (cutWarning c.displayName "handle") (Handle.trimmed c.name)

/-- The trimmed name that is shown. -/
def heldDisplayName (c : Channel) : Held :=
  .chars 64 (cutWarning (Handle.trimmed c.displayName) "display name")
    (Handle.trimmed c.displayName)

def heldPurpose (c : Channel) : Held :=
  .chars 250 (cutWarning (shown c.displayName) "purpose") c.purpose

def heldHeader (c : Channel) : Held :=
  .chars 1024 (cutWarning (shown c.displayName) "header") c.header

/-- **A channel tells of each of its four texts that is cut.** -/
theorem withinLimits_eq_told {c : Channel} (h : c.kind ≠ .direct) : c.withinLimits =
    ({ c with
        name :=
          let name := lengthenedIfShort c.heldName.left
          if Handle.valid name then name else lowerCase c.id
        displayName := lengthenedIfShort c.heldDisplayName.left
        purpose := c.heldPurpose.left
        header := c.heldHeader.left },
      warnings [c.heldName, c.heldDisplayName, c.heldPurpose, c.heldHeader]) := by
  have hsplit : warnings [c.heldName, c.heldDisplayName, c.heldPurpose, c.heldHeader] =
      warnings [c.heldName] ++ warnings [c.heldDisplayName] ++ warnings [c.heldPurpose] ++
        warnings [c.heldHeader] := by
    rw [← Limits.warnings_append, ← Limits.warnings_append, ← Limits.warnings_append]
    rfl
  rw [hsplit, withinLimits, if_neg h]
  simp only [limitedName, limitedDisplayName, Limits.chars_told, Limits.octets_told]
  rfl

end Channel

/-! ## Users -/

namespace User

def heldPosition (u : User) : Held :=
  .chars 128 (cutWarning u.username "position" u.position) u.position

def heldFirstName (u : User) : Held :=
  .chars 64 (cutWarning u.username "first name" u.firstName) u.firstName

def heldLastName (u : User) : Held :=
  .chars 64 (cutWarning u.username "last name" u.lastName) u.lastName

/-- **A user tells of each of his three texts that is cut**, and of an address that is
filled in. -/
theorem withinLimits_eq_told (u : User) : u.withinLimits =
    ({ u with
        email := u.filledEmail.1
        position := u.heldPosition.left
        firstName := u.heldFirstName.left
        lastName := u.heldLastName.left },
      u.filledEmail.2 ++ warnings [u.heldPosition, u.heldFirstName, u.heldLastName]) := by
  have hsplit : warnings [u.heldPosition, u.heldFirstName, u.heldLastName] =
      warnings [u.heldPosition] ++ warnings [u.heldFirstName] ++ warnings [u.heldLastName] := by
    rw [← Limits.warnings_append, ← Limits.warnings_append]
    rfl
  rw [hsplit, withinLimits, ← List.append_assoc, ← List.append_assoc]
  simp only [Limits.chars_told]
  rfl

/-- Nothing is told of an address that was given. -/
theorem snd_filledEmail_eq_nil {u : User} : u.filledEmail.2 = [] ↔ u.email ≠ "" := by
  simp only [filledEmail, String.isEmpty_iff]
  split
  · next hnone => simp [hnone]
  · next hgiven => simp [hgiven]

end User

end Mattermost

/-! ## Posts -/

open Mattermost (Post Channel User)
open Mattermost.Limits (warnings)

namespace Desk

/-- To place a post and to place what a limit leaves of it is the same. -/
theorem place_cut (message : Slack.Message) (post : Post) (channel : Channel) (w : Bool) :
    place message { post with message := takeChars 16383 post.message } channel w =
      place message post channel w := by
  have hcut : ∀ time : Int,
      { Post.inChannel { post with message := takeChars 16383 post.message } channel with
        createAt := time }.withinLimits =
      { post.inChannel channel with createAt := time }.withinLimits := by
    intro time
    have htwice : takeChars Mattermost.Limits.messageChars (takeChars 16383 post.message) =
        takeChars Mattermost.Limits.messageChars post.message := takeChars_takeChars
    unfold Post.inChannel Post.withinLimits
    split
    · simp only [htwice]
    · simp only [htwice]
  unfold place
  simp only [hcut]

end Desk

namespace Mattermost

/-- A post is left as it is if and only if its text is not too long. -/
theorem Post.withinLimits_eq_self {post : Post} :
    post.withinLimits = post ↔ charCount post.message ≤ 16383 := by
  constructor
  · intro h
    exact takeChars_eq_self.1 (congrArg Post.message h)
  · intro h
    rw [Post.withinLimits, show takeChars Limits.messageChars post.message = post.message from
      takeChars_eq_self.2 h]
    cases post
    rfl

/-- **What the log says of cuts.** Of a channel that is no direct conversation it has one
warning for each of handle, shown name, purpose and header of which the limit has taken
something away, and nothing else; of a direct conversation, which has no limits, it has
nothing. Of a user it has one for each of position, first name and last name, and one more if
an address was filled in. Of a post it has nothing: the text loses what is behind its
first 16383 characters, and the log is as if it had never been there. So every cut is told of
only where the text of no post is longer than that. -/
theorem withinLimits_told (c : Channel) (u : User) (message : Slack.Message) (post : Post)
    (w : Bool) (d : Desk) :
    c.withinLimits = (if c.kind = .direct then (c, []) else
      ({ c with
          name :=
            let name := Channel.lengthenedIfShort c.heldName.left
            if Handle.valid name then name else lowerCase c.id
          displayName := Channel.lengthenedIfShort c.heldDisplayName.left
          purpose := c.heldPurpose.left
          header := c.heldHeader.left },
        warnings [c.heldName, c.heldDisplayName, c.heldPurpose, c.heldHeader])) ∧
    u.withinLimits = ({ u with
        email := u.filledEmail.1
        position := u.heldPosition.left
        firstName := u.heldFirstName.left
        lastName := u.heldLastName.left },
      u.filledEmail.2 ++ warnings [u.heldPosition, u.heldFirstName, u.heldLastName]) ∧
    (u.filledEmail.2 = [] ↔ u.email ≠ "") ∧
    post.withinLimits = { post with message := takeChars 16383 post.message } ∧
    Desk.place message { post with message := takeChars 16383 post.message } c w d =
      Desk.place message post c w d ∧
    (post.withinLimits = post ↔ charCount post.message ≤ 16383) := by
  refine ⟨?_, User.withinLimits_eq_told u, User.snd_filledEmail_eq_nil, rfl,
    congrFun (Desk.place_cut message post c w) d, Post.withinLimits_eq_self⟩
  split
  · next hdirect => exact if_pos hdirect
  · next hother => exact Channel.withinLimits_eq_told hother

/-- **The text of a post is cut in silence**: of 16384 characters one is lost when the post is
placed, and the log stays empty. -/
theorem place_silent_of_long :
    let post := Post.plain "ann" "general" (String.ofList (List.replicate 16384 'm')) 10000
    let message := { Slack.Message.blank with timestamp := "10.000000" }
    let start : Desk :=
      ⟨⟨Roots.empty, ThreadStore.opened .memory, Backend.empty, #[]⟩, Ledger.empty⟩
    charCount post.message = 16384 ∧ ∃ d, Desk.place message post Channel.blank true start =
        .ok .root d ∧ d.threads.roots.posts.size = 1 ∧
      charCount (d.threads.roots.get 0).message = 16383 ∧ d.threads.log = #[] := by
  intro post message start
  have hlength : charCount post.message = 16384 :=
    charCount_ofList.trans List.length_replicate
  refine ⟨hlength, _, rfl, rfl, ?_, rfl⟩
  change charCount (takeChars Limits.messageChars post.message) = 16383
  rw [charCount_takeChars, hlength]
  rfl

end Mattermost

end ChatImport
