import Newswire.Audience
import Newswire.Charset.Basic
import Newswire.Charset.Chinese
import Newswire.Charset.Decode
import Newswire.Charset.Domain
import Newswire.Charset.Domain.Table
import Newswire.Charset.Error
import Newswire.Charset.Escape
import Newswire.Charset.Japanese
import Newswire.Charset.Korean
import Newswire.Charset.Names
import Newswire.Charset.Plane
import Newswire.Charset.Plane.Big5
import Newswire.Charset.Plane.Cp932
import Newswire.Charset.Plane.Gb18030
import Newswire.Charset.Plane.Gb2312
import Newswire.Charset.Plane.Hkscs
import Newswire.Charset.Plane.JisX0208
import Newswire.Charset.Plane.JisX0212
import Newswire.Charset.Plane.JisX0213
import Newswire.Charset.Plane.KsX1001
import Newswire.Charset.Punycode
import Newswire.Charset.Switched
import Newswire.Charset.Table
import Newswire.Charset.Unicode
import Newswire.Console
import Newswire.Contact
import Newswire.Double.Basic
import Newswire.Double.Reading
import Newswire.Double.Rounded
import Newswire.Double.Shortest
import Newswire.Fault
import Newswire.Feed.Address
import Newswire.Feed.Basic
import Newswire.Feed.Document
import Newswire.Feed.Html
import Newswire.Feed.News
import Newswire.Feed.Reading
import Newswire.Journal
import Newswire.Main
import Newswire.Marker
import Newswire.Message
import Newswire.Moment.Basic
import Newswire.Moment.Calendar
import Newswire.Moment.Iso
import Newswire.Newsroom.Basic
import Newswire.Newsroom.Refresh
import Newswire.Newsroom.Restart
import Newswire.Newsroom.Roster
import Newswire.Preferences
import Newswire.Proofs.Acts
import Newswire.Proofs.Addressing
import Newswire.Proofs.Affairs
import Newswire.Proofs.Agreement
import Newswire.Proofs.Answering
import Newswire.Proofs.Asking
import Newswire.Proofs.Blocks
import Newswire.Proofs.Bounds
import Newswire.Proofs.Conduct
import Newswire.Proofs.Consent
import Newswire.Proofs.Decoding
import Newswire.Proofs.Delivery.Dated
import Newswire.Proofs.Delivery.Failure
import Newswire.Proofs.Delivery.Runs
import Newswire.Proofs.Delivery.Undated
import Newswire.Proofs.Departed
import Newswire.Proofs.Directory
import Newswire.Proofs.Dispatch
import Newswire.Proofs.Engine
import Newswire.Proofs.Extraction
import Newswire.Proofs.Hearing
import Newswire.Proofs.Isolation
import Newswire.Proofs.Legibility
import Newswire.Proofs.Listing
import Newswire.Proofs.Looking
import Newswire.Proofs.Markup
import Newswire.Proofs.Membership
import Newswire.Proofs.Naming
import Newswire.Proofs.Opening
import Newswire.Proofs.Ordering
import Newswire.Proofs.Outage
import Newswire.Proofs.Posting
import Newswire.Proofs.Presence
import Newswire.Proofs.Refusal
import Newswire.Proofs.Registration
import Newswire.Proofs.Renaming
import Newswire.Proofs.Rendering
import Newswire.Proofs.Representation
import Newswire.Proofs.Restart.Delivery
import Newswire.Proofs.Restart.Equivalence
import Newswire.Proofs.Restart.Filing
import Newswire.Proofs.Restart.InStep
import Newswire.Proofs.Restart.Loading
import Newswire.Proofs.Restart.Mirroring
import Newswire.Proofs.Saving
import Newswire.Proofs.Seconds.Side
import Newswire.Proofs.Seconds.Spelling
import Newswire.Proofs.Seconds.Usable
import Newswire.Proofs.Selection
import Newswire.Proofs.Settling
import Newswire.Proofs.Sparing
import Newswire.Proofs.Stopping
import Newswire.Proofs.Succession
import Newswire.Proofs.Sweeping
import Newswire.Proofs.Table
import Newswire.Proofs.Telling
import Newswire.Proofs.Timetable
import Newswire.Proofs.Verdict
import Newswire.Proofs.Written.Marker
import Newswire.Proofs.Written.Moment
import Newswire.Proofs.Written.Row
import Newswire.Startup
import Newswire.Store
import Newswire.Text.Blank
import Newswire.Text.Case
import Newswire.Text.CaseTable
import Newswire.Text.Digit
import Newswire.Text.Encodable
import Newswire.Text.Half
import Newswire.Text.Name
import Newswire.Text.Name.Aliases
import Newswire.Text.Name.Alphabets
import Newswire.Text.Name.Ancient
import Newswire.Text.Name.East
import Newswire.Text.Name.Forms
import Newswire.Text.Name.Further
import Newswire.Text.Name.Pictures
import Newswire.Text.Name.Scripts
import Newswire.Text.Name.Signs
import Newswire.Text.Normal
import Newswire.Text.Normal.Table
import Newswire.Text.Printable
import Newswire.Text.Quoted
import Newswire.Text.Ranges
import Newswire.Text.Split
import Newswire.Timer.Clockwork
import Newswire.Timer.Recurrence
import Newswire.Timer.Span
import Newswire.Value
