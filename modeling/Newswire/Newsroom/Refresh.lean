import Newswire.Feed.News
import Newswire.Newsroom.Roster

/-!
Refreshing: a contact's feed is looked at, and what is new in it becomes a message to the user. A
feed that no longer exists is taken offline, and the user is asked whether to remove it. Work in the
background never fails for its caller; its faults are noted.
-/

namespace Newswire.Newsroom

/-- What came of looking at a feed. -/
structure Outcome where
  renamed : Bool
  hasNews : Bool
  notified : Bool
deriving DecidableEq

def background (name : String) (work : Engine Unit) : Engine Unit :=
  tryCatch work fun fault => noteFault .refresh (name ++ " worker failed") fault

/-! ### Feeds that are gone -/

def removalQuestion (address : Option String) : Question where
  title := "Feed no longer available"
  text := "The feed at " ++ addressText address ++ " no longer exists. " ++
    "Do you want to remove it from your contact list?"

/-- End a subscription that may have ended already. -/
def removeDead (h : Handle) : Engine Unit :=
  tryCatch (unsubscribe h) fun
    | .notSubscribed address =>
      note .info .refresh
        ("We could not remove a dead contact: " ++ (Fault.notSubscribed address).message)
    | fault => throw fault

/-- Take a contact offline whose feed is gone and, if that is news and there is someone to ask, ask
whether to remove it. -/
def recover (w : Outside) (h : Handle) : Engine Unit := do
  if ← goOffline h then
    match w.ask with
    | none => pure ()
    | some ask =>
      let s ← get
      let question := removalQuestion (s.contact h).address
      let answer := ask s.questions question
      modify fun s => { s with questions := s.questions + 1 }
      record (.asked h question answer)
      match answer with
      | .ok true => removeDead h
      | .ok false => pure ()
      | .error fault =>
        noteFault .refresh
          ("Could not ask about removing " ++ addressText (s.contact h).address) fault

def reportGone (w : Outside) (h : Handle) : Engine Unit :=
  background "feed-not-found" (recover w h)

/-! ### Looking at a feed -/

def feedText (name : String) : String :=
  "Feed '" ++ name ++ "'"

/-- Take in a feed: the contact is online and bears its title, and what is new is told. When nothing
is, the user hears of it only if he asked. -/
def takeIn (w : Outside) (h : Handle) (feed : Feed) (onRequest : Bool) : Engine Outcome := do
  let address := (← contactOf h).address
  feed.warnings.forM fun warning =>
    note .warning .refresh (feedText (addressText address) ++ ": " ++ warning)
  if (← contactOf h).presence = .offline then setPresence h .online
  let before ← contactOf h
  let renamed := !feed.title.same before.name
  edit h fun c => { c with name := feed.title }
  let news ← lift (feed.news before.marker)
  let hasNews := news.fresh.isSome
  if hasNews then edit h fun c => { c with marker := news.fresh }
  if renamed || hasNews then propertyChanged w h Event.nameProperty before.name feed.title
  if hasNews || onRequest then
    if hasNews then note .info .refresh (feedText feed.title.shown ++ ": new items")
    tell w .messages h (.received (.html news.body) (← contactOf h))
  pure ⟨renamed, hasNews, hasNews || onRequest⟩

/-- Look at the feed of a contact. Nothing comes of it when the feed is gone or cannot be read. -/
def check (w : Outside) (h : Handle) (onRequest : Bool) : Engine (Option Outcome) := do
  let address := (← contactOf h).address
  record (.fetched h address)
  match w.fetch address with
  | .ok feed => some <$> takeIn w h feed onRequest
  | .error (.gone why) =>
    note .warning .refresh (feedText (addressText address) ++ " no longer exists: " ++ why)
    reportGone w h
    pure none
  | .error (.unreadable why) =>
    note .error .refresh
      ("Failed to retrieve feed '" ++ addressText address ++ "': " ++ why)
    pure none
  | .error fault => throw fault

def checkInSweep (w : Outside) (h : Handle) : Engine Unit :=
  tryCatch (discard (check w h false)) fun fault => do
    let c ← contactOf h
    noteFault .refresh ("Failed to refresh feed for " ++ c.text) fault

/-- Look at the feeds of all contacts, those that are in the list now. -/
def sweep (w : Outside) : Engine Unit := do
  (← get).roster.forM (checkInSweep w)

def refresh (w : Outside) (h : Handle) : Engine Unit :=
  background "feed-refresh" (discard (check w h true))

def acknowledgement : Message := .plain "Refreshing feed..."

/-- Send a message to a contact. A feed takes none, so its news are the answer; a contact that is
offline for good gets nothing. -/
def send (w : Outside) (h : Handle) (message : Message) : Engine Unit := do
  let c ← contactOf h
  if c.persistent && c.presence = .offline then
    tell w .messages h (.failed message c Event.offlineReason)
  else
    tell w .messages h (.delivered acknowledgement c)
    refresh w h

/-! ### The timer -/

def start : Engine Unit := do
  let c := (← get).clockwork
  if !c.isRunning then
    note .debug .timer
      ("Creating refresh timer (delay " ++ c.delay.text ++ "s, period " ++ c.period.text ++ "s)")
    modify fun s => { s with clockwork := c.start }

def stop : Engine Unit := do
  let c := (← get).clockwork
  if c.isRunning then
    modify fun s => { s with clockwork := c.stop }
    note .debug .timer "Refresh timer stopped"

def standingChanged : Standing → Engine Unit
  | .registered => start
  | _ => stop

def commence (registered : Bool) : Engine Unit := do
  if registered then start

end Newswire.Newsroom
