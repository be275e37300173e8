import Caseless.Catalogue
import Caseless.Generated.Reader
import Caseless.Proofs.Accessors
import Caseless.Proofs.BranchTable
import Caseless.Proofs.CaseLists
import Caseless.Proofs.Casing
import Caseless.Proofs.DiagnosticText
import Caseless.Proofs.ErrorCauses
import Caseless.Proofs.ErrorPlaces
import Caseless.Proofs.Escaping
import Caseless.Proofs.GeneratedText
import Caseless.Proofs.GenericHeaders
import Caseless.Proofs.Layout
import Caseless.Proofs.Lookup
import Caseless.Proofs.Noninterference
import Caseless.Proofs.OptionErrors
import Caseless.Proofs.OptionPlaces
import Caseless.Proofs.Options
import Caseless.Proofs.Outcome
import Caseless.Proofs.PhrasePlaces
import Caseless.Proofs.PhraseRanks
import Caseless.Proofs.Places
import Caseless.Proofs.RawValueType
import Caseless.Proofs.Requirements
import Caseless.Proofs.TextPlaces
import Caseless.Registry
import Caseless.Source
