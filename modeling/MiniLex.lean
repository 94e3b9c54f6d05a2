import MiniLex.Main
import MiniLex.Proofs.Segmentation
import MiniLex.Proofs.Literal
import MiniLex.Proofs.Scan
import MiniLex.Proofs.KeepGoing
import MiniLex.Proofs.Recovery
import MiniLex.Proofs.Outcome
import MiniLex.Proofs.Place
import MiniLex.Proofs.Session
import MiniLex.Proofs.Integrity
import MiniLex.Proofs.Repair
import MiniLex.Proofs.LiteralRange
import MiniLex.Proofs.Markup
import MiniLex.Proofs.Rendering
import MiniLex.Proofs.Printing
import MiniLex.Proofs.ShownText
import MiniLex.Proofs.Injection
import MiniLex.Proofs.Listing
import MiniLex.Proofs.Heading
import MiniLex.Proofs.Frame
import MiniLex.Proofs.Verdict
import MiniLex.Proofs.LineCount
import MiniLex.Proofs.Location
import MiniLex.Proofs.Shift
import MiniLex.Proofs.Concatenation
import MiniLex.Proofs.Caret
import MiniLex.Proofs.Relabelling
import MiniLex.Proofs.Spelling
import MiniLex.Proofs.Utf8
import MiniLex.Proofs.JsonReader
import MiniLex.Proofs.JsonRoundTrip
import MiniLex.Proofs.Shortcode
import MiniLex.Proofs.PrintedLocation
import MiniLex.Proofs.Wrapping
import MiniLex.Proofs.Title
