import Warrant.Main
import Warrant.Proofs.Agreement
import Warrant.Proofs.Attenuation
import Warrant.Proofs.Forgery
import Warrant.Proofs.History
import Warrant.Proofs.Answers
import Warrant.Proofs.Base64
import Warrant.Proofs.Envelope
import Warrant.Proofs.Payload
import Warrant.Proofs.Readable
import Warrant.Proofs.Sealing
import Warrant.Proofs.Loading
import Warrant.Proofs.LoadingOrder
import Warrant.Proofs.NormalForm
import Warrant.Proofs.Meaning
import Warrant.Proofs.Limits
import Warrant.Proofs.Parsing
import Warrant.Proofs.Saving
import Warrant.Proofs.Storable
import Warrant.Proofs.Reachable
import Warrant.Proofs.Carrying
import Warrant.Proofs.Rendering
import Warrant.Proofs.Sameness
import Warrant.Proofs.Queries
import Warrant.Proofs.Translation
import Warrant.Proofs.LoadedMeaning
import Warrant.Proofs.Rounds
import Warrant.Proofs.Calendar
import Warrant.Proofs.Reading
import Warrant.Proofs.Lexemes
import Warrant.Proofs.Trees
import Warrant.Proofs.Infix
import Warrant.Proofs.Restating
import Warrant.Proofs.Expressions
import Warrant.Proofs.Rereading
import Warrant.Proofs.Keywords
import Warrant.Proofs.Stopping
import Warrant.Proofs.Interruption
import Warrant.Proofs.Milestones
import Warrant.Proofs.Endings
import Warrant.Proofs.Capacity
import Warrant.Proofs.Operators
import Warrant.Proofs.TreeValues
import Warrant.Proofs.PatternSharing
import Warrant.Proofs.Repeating
import Warrant.Proofs.Building
import Warrant.Proofs.Lookup
import Warrant.Proofs.Separation
import Warrant.Proofs.SetForming
import Warrant.Proofs.FactRereading
import Warrant.Proofs.Resolving
import Warrant.Proofs.SymbolIndex
