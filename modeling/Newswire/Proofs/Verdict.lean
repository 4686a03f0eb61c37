import Newswire.Proofs.Addressing
import Newswire.Proofs.Extraction

/-!
What comes of reading a feed, told by the address, by how the server answered and by the title. An
address that is not served comes before the answer, the answer before the title. Behind these three
nothing goes wrong any more: an oddity of the document is only warned about, and so is whatever is
wrong with its entries.
-/

namespace Newswire.Reading

open Feed

variable {fields channel : List (String × Value)} {entries : List Value} {v : Value} {n : Int}

/-! ### The answer of the server -/

/-- The number that the server answered with, a success if there is none. -/
def statusOf (fields : List (String × Value)) : Int :=
  ((Document.field? fields "status").bind Value.integer?).getD 200

/-- The document says how the server answered by a whole number, or not at all. -/
def WholeStatus (fields : List (String × Value)) : Prop :=
  ∀ v, Document.field? fields "status" = some v → v.integer?.isSome = true

/-- By this answer the feed no longer exists. -/
def Gone (status : Int) : Prop :=
  status = 404 ∨ status = 410

theorem mem_goneStatuses_iff : n ∈ goneStatuses ↔ Gone n := by
  simp only [goneStatuses, Gone, List.mem_cons, List.not_mem_nil, or_false]

theorem le_of_mem_lockedStatuses (h : n ∈ lockedStatuses) : 400 ≤ n := by
  simp only [lockedStatuses, List.mem_cons, List.not_mem_nil, or_false] at h
  omega

theorem Gone.le (h : Gone n) : 400 ≤ n := by
  unfold Gone at h
  omega

theorem same_int_of_integer? (h : v.integer? = some n) (m : Int) : v.same (.int m) = (n == m) := by
  cases v <;> cases h <;> simp only [Value.same]

theorem among_of_integer? (h : v.integer? = some n) (numbers : List Int) :
    among v numbers = true ↔ n ∈ numbers := by
  simp only [among, List.any_eq_true, same_int_of_integer? h, beq_iff_eq, exists_eq_right']

theorem refused_of_integer? (h : v.integer? = some n) : refused v = .ok (decide (400 ≤ n)) := by
  cases v with
  | bool b =>
    cases h
    cases b <;> rfl
  | int m =>
    cases h
    rfl
  | _ => cases h

theorem integer?_status (h : WholeStatus fields) :
    ((Document.field? fields "status").getD (.int 200)).integer? = some (statusOf fields) := by
  unfold statusOf
  cases hfield : Document.field? fields "status" with
  | none => rfl
  | some v =>
    obtain ⟨n, hn⟩ := Option.isSome_iff_exists.mp (h v hfield)
    simp only [Option.getD_some, Option.bind_some, hn]

/-- What is made of the answer of the server. -/
inductive Answered (status : Int) : Except Fault Unit → Prop
  | gone {why : String} (h : Gone status) : Answered status (.error (.gone why))
  | failed {why : String} (hgone : ¬ Gone status) (h : 400 ≤ status) :
      Answered status (.error (.unreadable why))
  | fine (h : status < 400) : Answered status (.ok ())

theorem answered_checkStatus (h : WholeStatus fields) :
    Answered (statusOf fields) (checkStatus (.record fields)) := by
  have hint := integer?_status h
  unfold checkStatus
  simp only [Document.get, Except.mapError, Except.bind, bind]
  generalize (Document.field? fields "status").getD (.int 200) = status at hint ⊢
  split
  · next hgone => exact .gone (mem_goneStatuses_iff.mp ((among_of_integer? hint _).mp hgone))
  · next hgone =>
    rw [among_of_integer? hint, mem_goneStatuses_iff] at hgone
    split
    · next hlocked =>
      exact .failed hgone (le_of_mem_lockedStatuses ((among_of_integer? hint _).mp hlocked))
    · rw [refused_of_integer? hint]
      dsimp only
      split
      · next hfailed => exact .failed hgone (of_decide_eq_true hfailed)
      · next hfine => exact .fine (Int.not_le.mp fun hle => hfine (decide_eq_true hle))

/-! ### The document -/

def Titled (channel : List (String × Value)) : Prop :=
  ∃ title, told channel "title" = .text title ∧ title ≠ ""

theorem truthy_title_iff (h : (told channel "title").Plain) :
    (told channel "title").truthy = true ↔ Titled channel := by
  constructor
  · intro htruthy
    obtain ⟨title, htitle⟩ := h.exists_text htruthy
    refine ⟨title, htitle, ?_⟩
    rintro rfl
    rw [htitle] at htruthy
    cases htruthy
  · rintro ⟨title, htitle, hne⟩
    rw [htitle, Value.truthy, Bool.not_eq_true', String.isEmpty_eq_false_iff]
    exact hne

/-- The warning about the form of the whole document, if there is something odd about it. -/
def oddities (fields : List (String × Value)) : List String :=
  if (told fields "bozo").truthy then
    ["Feed has formatting issues: " ++ (told fields "bozo_exception").shown]
  else []

/-- The feed says what its document does: the title, the first items made of the entries, once these
are in order, and one warning about each oddity, that of the whole document before those about
entries that are left out. -/
structure Reports (fields channel : List (String × Value)) (entries : List Value) (feed : Feed) :
    Prop where
  title : feed.title = told channel "title"
  few : feed.items.length ≤ 50
  sifted : ∃ found notes, Sifted entries found notes ∧ feed.warnings = oddities fields ++ notes ∧
    ∃ arranged, Arranged arranged found ∧ feed.items = arranged.take 50

theorem feed_of_fine (hfine : checkStatus (.record fields) = .ok ())
    (hchannel : Document.field? fields "feed" = some (.record channel))
    (hentries : Document.field? fields "entries" = some (.list entries)) :
    Reading.feed (.record fields) =
      if !(told channel "title").truthy then
        if (told fields "bozo").truthy && (told fields "bozo_exception").truthy then
          .error (.unreadable ("Could not read feed: " ++ (told fields "bozo_exception").shown))
        else .error (.unreadable "URL does not point to a valid RSS or Atom feed")
      else .ok {
        title := told channel "title"
        items := (ordered (accepted entries)).take itemLimit
        warnings := oddities fields ++ (Reading.items entries).2 } := by
  have hmember : Document.member (.record fields) "feed" = .ok (.record channel) := by
    rw [Document.member, hchannel]
  have hlist : Document.member (.record fields) "entries" = .ok (.list entries) := by
    rw [Document.member, hentries]
  unfold Reading.feed
  rw [hfine, hmember, hlist]
  rfl

theorem reports_of_kept :
    Reports fields channel entries {
      title := told channel "title"
      items := (ordered (accepted entries)).take itemLimit
      warnings := oddities fields ++ (Reading.items entries).2 } := by
  refine ⟨rfl, ?_, accepted entries, _, sifted_items entries, rfl, _,
    arranged_ordered (accepted entries), rfl⟩
  exact List.length_take_le _ _

/-! ### The verdict -/

/-- What comes of reading the document for an address, by the first thing that is wrong. -/
inductive Verdict (url : String) (fields channel : List (String × Value)) (entries : List Value) :
    Except Fault Feed → Prop
  | refused {why : String} (h : ¬ Address.Served url) :
      Verdict url fields channel entries (.error (.unreadable why))
  | gone {why : String} (hserved : Address.Served url) (h : Gone (statusOf fields)) :
      Verdict url fields channel entries (.error (.gone why))
  | unreadable {why : String} (hserved : Address.Served url) (hgone : ¬ Gone (statusOf fields))
      (h : 400 ≤ statusOf fields ∨ ¬ Titled channel) :
      Verdict url fields channel entries (.error (.unreadable why))
  | read {feed : Feed} (hserved : Address.Served url) (hstatus : statusOf fields < 400)
      (htitled : Titled channel) (h : Reports fields channel entries feed) :
      Verdict url fields channel entries (.ok feed)

theorem verdict_fetch (hstatus : WholeStatus fields)
    (hchannel : Document.field? fields "feed" = some (.record channel))
    (htitle : (told channel "title").Plain)
    (hentries : Document.field? fields "entries" = some (.list entries)) (url : String) :
    Verdict url fields channel entries (fetch (.record fields) (some url)) := by
  unfold fetch
  cases hcheck : Address.check (some url) with
  | error refusal =>
    refine .refused fun hserved => ?_
    rw [Address.check_eq_ok_iff.mpr hserved] at hcheck
    cases hcheck
  | ok _ =>
    have hserved : Address.Served url := Address.check_eq_ok_iff.mp hcheck
    have hanswered := answered_checkStatus hstatus
    show Verdict url fields channel entries (Reading.feed (.record fields))
    generalize hanswer : checkStatus (.record fields) = answer at hanswered
    cases hanswered with
    | gone hgone =>
      rw [Reading.feed, hanswer]
      exact .gone hserved hgone
    | failed hgone hfailed =>
      rw [Reading.feed, hanswer]
      exact .unreadable hserved hgone (.inl hfailed)
    | fine hfine =>
      rw [feed_of_fine hanswer hchannel hentries]
      cases htruthy : (told channel "title").truthy with
      | true => exact .read hserved hfine ((truthy_title_iff htitle).mp htruthy) reports_of_kept
      | false =>
        have hgone : ¬ Gone (statusOf fields) := fun hgone => Int.not_le.mpr hfine hgone.le
        have huntitled : ¬ Titled channel := fun htitled =>
          Bool.eq_false_iff.mp htruthy ((truthy_title_iff htitle).mpr htitled)
        rw [if_pos Bool.not_false]
        split <;> exact .unreadable hserved hgone (.inr huntitled)

/-- A document with a feed, whose title is a text if there is one, with a list of entries, whatever
these are, and with a whole number as its status if there is one, is read or refused for one of two
reasons, which are told apart; nothing else ever goes wrong. -/
theorem refused_for_two_reasons_only (hstatus : WholeStatus fields)
    (hchannel : Document.field? fields "feed" = some (.record channel))
    (htitle : (told channel "title").Plain)
    (hentries : Document.field? fields "entries" = some (.list entries)) (url : String) :
    let result := fetch (.record fields) (some url)
    let status := statusOf fields
    ((∃ why, result = .error (.unreadable why)) ↔
      ¬ Address.Served url ∨ ¬ Gone status ∧ (400 ≤ status ∨ ¬ Titled channel)) ∧
    ((∃ why, result = .error (.gone why)) ↔ Address.Served url ∧ Gone status) ∧
    ((∃ feed, result = .ok feed ∧ Reports fields channel entries feed) ↔
      Address.Served url ∧ status < 400 ∧ Titled channel) ∧
    ∀ fault, result = .error fault → ∃ why, fault = .unreadable why ∨ fault = .gone why := by
  intro result status
  have hverdict : Verdict url fields channel entries result :=
    verdict_fetch hstatus hchannel htitle hentries url
  clear_value result
  cases hverdict with
  | refused hserved => simp [hserved]
  | gone hserved hgone =>
    have hfailed : ¬ status < 400 := Int.not_lt.mpr hgone.le
    simp [hserved, status, hgone, hfailed]
  | unreadable hserved hgone h =>
    have huntitled : status < 400 → ¬ Titled channel := fun hfine =>
      h.resolve_left (Int.not_le.mpr hfine)
    simpa [hserved, status, hgone, h] using huntitled
  | read hserved hfine htitled h =>
    have hfailed : ¬ 400 ≤ status := Int.not_le.mpr hfine
    have hgone : ¬ Gone status := fun hgone => hfailed hgone.le
    simp [hserved, hfine, status, hgone, hfailed, htitled, h]

/-- A page is read, with two warnings, although there is something odd about it and one of its
entries is no record. -/
theorem reads_odd_page :
    let channel : List (String × Value) := [("title", .text "News")]
    let entries : List Value := [.int 5, entryTitled (.text "A")]
    let fields : List (String × Value) := [("status", .int 301), ("bozo", .bool true),
      ("bozo_exception", .fault "no end"), ("feed", .record channel), ("entries", .list entries)]
    ∃ feed, fetch (.record fields) (some "HTTPS://news#top") = .ok feed ∧
      Reports fields channel entries feed ∧ feed.warnings = ["Feed has formatting issues: no end",
        "Skipping malformed entry: 'int' object has no attribute 'get'"] := by
  intro channel entries fields
  have hstatus : WholeStatus fields := by
    rintro _ ⟨⟩
    rfl
  have htitle : (told channel "title").Plain := .inr ⟨"News", rfl⟩
  have hserved : Address.Served "HTTPS://news#top" := Address.check_eq_ok_iff.mp rfl
  obtain ⟨-, -, hread, -⟩ :=
    refused_for_two_reasons_only hstatus rfl htitle rfl "HTTPS://news#top"
  obtain ⟨feed, hfeed, hreports⟩ :=
    hread.mpr ⟨hserved, by decide, "News", rfl, by decide⟩
  exact ⟨feed, hfeed, hreports, by cases hfeed; rfl⟩

-- The address comes before the answer of the server, and this before the title.
example : let document : Value := .record [("status", .int 410), ("feed", .record [])]
    (fetch document (some "ftp://news"), fetch document (some "http://news")) =
      (.error (.unreadable "Invalid URL format: only http and https are supported"),
        .error (.gone "Feed no longer exists: HTTP 410")) := rfl

end Newswire.Reading
