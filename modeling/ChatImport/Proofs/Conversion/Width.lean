import ChatImport.Proofs.Conversion.Runs
import ChatImport.Proofs.Thread.Claims
/-!
# Numbers that fit

The times of messages are whole numbers here, of any size, but nothing that is worked out
about them is a large one. The microseconds of a fraction stay below a million, so that even
as nanoseconds they need less than 32 bits. The calendar ends so early that the
microseconds of its last year need no more than 64 (`Instant.fits`). In milliseconds
there is room behind it: each claim on the ledger stays as near to its request as there
were claims before (`ChannelRun.fits_tried`), so the claims of a channel fit as well, unless
the channel has more than 2 ^ 62 messages (`ChannelRun.takeAll_fits`).
-/

namespace ChatImport

open Mattermost (Post Channel)

/-- The number is one of 64 bits with a sign. -/
def Fits (n : Int) : Prop := Json.leastInteger ≤ n ∧ n ≤ Json.greatestInteger

instance (n : Int) : Decidable (Fits n) :=
  inferInstanceAs (Decidable (Json.leastInteger ≤ n ∧ n ≤ Json.greatestInteger))

/-- What lies between numbers that fit does. -/
theorem Fits.between {least greatest n : Int} (hleast : Fits least) (hgreatest : Fits greatest)
    (hle : least ≤ n) (hge : n ≤ greatest) : Fits n :=
  ⟨Int.le_trans hleast.1 hle, Int.le_trans hge hgreatest.2⟩

namespace Slack

/-- Whatever is worked out of the instant fits. -/
structure Instant.Narrow (t : Instant) : Prop where
  /-- The seconds in microseconds, before those of the fraction are added. -/
  wholeMicros : Fits (t.seconds * 1000000)
  micros : Fits t.micros
  /-- The seconds in milliseconds, before those of the fraction are added. -/
  wholeMillis : Fits (t.seconds * 1000)
  millis : Fits t.millis

/-- **The calendar has no instant that does not fit.** -/
theorem Instant.narrow (t : Instant) : t.Narrow := by
  have hleast : Fits (Timestamp.firstSecond * 1000000) := by decide
  have hgreatest : Fits ((Timestamp.lastSecond + 1) * 1000000) := by decide
  have hlower : Fits (Timestamp.firstSecond * 1000) := by decide
  have hupper : Fits ((Timestamp.lastSecond + 1) * 1000) := by decide
  obtain ⟨hfirst, hlast⟩ := t.inCalendar
  obtain ⟨hmicros, hmicros'⟩ := t.bounds_of_micros
  obtain ⟨hmillis, hmillis'⟩ := t.bounds_of_millis
  exact ⟨hleast.between hgreatest (by omega) (by omega),
    hleast.between hgreatest hmicros (Int.le_of_lt hmicros'),
    hlower.between hupper (by omega) (by omega),
    hlower.between hupper hmillis (Int.le_of_lt hmillis')⟩

/-- The times of a message fit, also if its text is no time. -/
theorem Message.fits (m : Message) : Fits m.sortKey ∧ Fits m.createdAt := by
  unfold sortKey createdAt Timestamp.sortKey Timestamp.millis
  cases Timestamp.parse? m.timestamp with
  | none => decide
  | some t => exact ⟨t.narrow.micros, t.narrow.millis⟩

end Slack

namespace ChannelRun

variable {config : Config} {uploads : Uploads} {channel : Channel} {r r' : ChannelRun}
variable {messages : List Slack.Message} {message : Slack.Message}

/-- A post asks for the time of its message. -/
theorem createAt_of_mem_draftOf {d : Draft} (h : d ∈ draftOf config uploads channel message r) :
    d.post.createAt = message.createdAt := by
  have hmem : d ∈ drafts config uploads channel [message] r := List.mem_append_left _ h
  have hmessage : d.message = message := by
    have hsub := (sublist_drafts config uploads channel [message] r).subset
    exact List.mem_singleton.1 (hsub (List.mem_map_of_mem hmem))
  rw [(newPost_of_mem_drafts hmem).createAt, hmessage]

/-- There are no more times on the ledger than messages have been taken. -/
theorem size_ledger_le (hsep : r.desk.threads.Separate) (hempty : r.ledger = .empty)
    (hrun : takeAll config uploads channel messages r = .ok () r') :
    r'.ledger.size ≤ messages.length := by
  rcases @takeAll_cases config uploads channel r hsep messages with
    ⟨r'', hrun', hpassed⟩ | ⟨error, r'', hrun', -⟩
  · rw [hrun] at hrun'
    cases hrun'
    rw [hpassed.ledger, hempty, Ledger.size_claimAll_empty, List.length_map]
    exact hpassed.length_le
  · rw [hrun] at hrun'
    cases hrun'

/-- **A claim for a message tries no time that does not fit** as long as the ledger is not
too full. -/
theorem fits_tried {ledger : Ledger} {time : Int} (hsize : ledger.size ≤ 2 ^ 62)
    (h : Ledger.Tried ledger.used message.createdAt time) : Fits time := by
  have hleast : Fits (Slack.Timestamp.firstSecond * 1000) := by decide
  have hgreatest : Fits ((Slack.Timestamp.lastSecond + 1) * 1000 + 2 ^ 62) := by decide
  obtain ⟨hfirst, hlast⟩ := message.bounds_of_createdAt
  obtain ⟨hle, hnear⟩ := h.le_free
  have hfree : ledger.free message.createdAt ≤ message.createdAt + ledger.size :=
    Ledger.firstFree_le
  exact hleast.between hgreatest (by omega) (by omega)

/-- **Nothing that is worked out about the times of a channel is too large.** The microseconds
of a fraction fit into 32 bits as nanoseconds, whatever the fraction; the times of each message
fit into 64, whatever its text, and so does all they are worked out of. And if the channel has
no more than 2 ^ 62 messages, and these are taken in the order of their times by any
conversion, over a store of any kind: whenever the turn of a message comes and it becomes a
post, all times that its claim tries fit, the one that it is given among them. -/
theorem takeAll_fits (messages : List Slack.Message) (hfew : messages.length ≤ 2 ^ 62) :
    (∀ fraction micros, Slack.Timestamp.fraction? fraction = some micros →
      micros * 1000 < UInt32.size) ∧
    (∀ ts instant, Slack.Timestamp.parse? ts = some instant → instant.Narrow) ∧
    (∀ message ∈ messages, Fits message.sortKey ∧ Fits message.createdAt) ∧
    ∀ config uploads source name channel c before message after r,
      inTime messages = before ++ message :: after →
      takeAll config uploads channel before (.start c (StoreSource.storeFor source name)) =
        .ok () r →
      ∀ d ∈ draftOf config uploads channel message r,
        Ledger.Tried r.ledger.used d.post.createAt (r.ledger.free d.post.createAt) ∧
        ∀ time, Ledger.Tried r.ledger.used d.post.createAt time → Fits time := by
  refine ⟨fun fraction micros hmicros => ?_, fun ts instant _ => instant.narrow,
    fun message _ => message.fits, ?_⟩
  · have hlt := Slack.Timestamp.fraction?_lt hmicros
    have hsize : UInt32.size = 4294967296 := rfl
    omega
  intro config uploads source name channel c before message after r hinTime hrun d hd
  refine ⟨Ledger.search_free.tried, fun time htried => ?_⟩
  rw [createAt_of_mem_draftOf hd] at htried
  refine fits_tried ?_ htried
  -- on the ledger are at most the times of the messages before this one
  have hperm : (inTime messages).Perm messages := List.mergeSort_perm _ _
  have hlength := hperm.length_eq
  rw [hinTime, List.length_append] at hlength
  have hsize := size_ledger_le (Conversion.separate_start source) rfl hrun
  omega

/-- Two messages in one millisecond: the second tries the time of the first, and is given
the one after. -/
theorem takeAll_fits_of_collision :
    let first := Conversion.saying "first" "12.000100" ""
    let second := Conversion.saying "second" "12.000200" ""
    let e := Conversion.oneChannel [first, second]
    let c := (Conversion.fresh "" Files.empty Backend.empty).withUsers none e.users
    [first, second].length ≤ 2 ^ 62 ∧ inTime [first, second] = [first] ++ second :: [] ∧
    ∃ r, takeAll Conversion.withoutFiles e.uploads Mattermost.Channel.blank [first]
        (.start c (StoreSource.memory.storeFor "general")) = .ok () r ∧
      ∃ d ∈ draftOf Conversion.withoutFiles e.uploads Mattermost.Channel.blank second r,
        d.post.createAt = 12000 ∧ r.ledger.free d.post.createAt = 12001 ∧
        Ledger.Tried r.ledger.used d.post.createAt 12001 ∧ Fits 12001 := by
  intro first second e c
  have hfew : [first, second].length ≤ 2 ^ 62 := by decide
  have hinTime : inTime [first, second] = [first] ++ second :: [] :=
    List.mergeSort_of_pairwise (by decide +kernel)
  have hevaluated : Running.endsWith (fun _ r =>
      decide (∃ d ∈ draftOf Conversion.withoutFiles e.uploads Mattermost.Channel.blank second r,
        d.post.createAt = 12000 ∧ r.ledger.free d.post.createAt = 12001))
      (takeAll Conversion.withoutFiles e.uploads Mattermost.Channel.blank [first]
        (.start c (StoreSource.memory.storeFor "general"))) = true := by
    decide +kernel
  obtain ⟨⟨⟩, r, hrun, hd⟩ := Running.exists_of_endsWith hevaluated
  obtain ⟨d, hmem, htime, hfree⟩ := of_decide_eq_true hd
  obtain ⟨-, -, -, hclaims⟩ := takeAll_fits [first, second] hfew
  obtain ⟨hlast, hfits⟩ := hclaims Conversion.withoutFiles e.uploads .memory "general"
    Mattermost.Channel.blank c [first] second [] r hinTime hrun d hmem
  rw [hfree] at hlast
  exact ⟨hfew, hinTime, r, hrun, d, hmem, htime, hfree, hlast, hfits _ hlast⟩

end ChannelRun

end ChatImport
