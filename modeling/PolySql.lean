import PolySql.Database
import PolySql.Declaration
import PolySql.Dialect.Descriptor
import PolySql.Draft.Session
import PolySql.Proofs.Children
import PolySql.Proofs.Leaves
import PolySql.Proofs.Spelling
import PolySql.Proofs.Binds
import PolySql.Proofs.MaskedWriting
import PolySql.Proofs.Placeholders
import PolySql.Proofs.Alphabet
import PolySql.Proofs.Scanning
import PolySql.Proofs.Balance
import PolySql.Proofs.Tidy
import PolySql.Proofs.Quoting
import PolySql.Proofs.Lexemes
import PolySql.Proofs.Grammar
import PolySql.Proofs.Vocabulary
import PolySql.Proofs.Phrases
import PolySql.Proofs.Regrouping
import PolySql.Proofs.Predicates
import PolySql.Proofs.PredicateText
import PolySql.Proofs.PredicateReading
import PolySql.Proofs.Expressible
import PolySql.Proofs.Formulas
import PolySql.Proofs.Readings
import PolySql.Proofs.Chains
import PolySql.Proofs.Arithmetic
import PolySql.Proofs.Logic
import PolySql.Proofs.ConflictWords
import PolySql.Proofs.ConflictReading
import PolySql.Proofs.Inversion
import PolySql.Proofs.LogicReading
import PolySql.Proofs.Refusals
import PolySql.Proofs.Sending
import PolySql.Proofs.Upserts
import PolySql.Proofs.Storage
import PolySql.Proofs.Reordering
import PolySql.Proofs.Untouched
import PolySql.Proofs.Fallbacks
import PolySql.Proofs.JsonRoundtrip
import PolySql.Proofs.Descriptors
import PolySql.Proofs.Offences
import PolySql.Proofs.Subselects
import PolySql.Proofs.UpsertCalls
import PolySql.Proofs.Comments
import PolySql.Proofs.Prefixes
import PolySql.Proofs.Times
import PolySql.Proofs.RawTexts
import PolySql.Proofs.TableMarks
import PolySql.Proofs.TableReading
import PolySql.Proofs.DeclaredNames
import PolySql.Proofs.SnakeCase
import PolySql.Proofs.CamelCase
import PolySql.Proofs.Unquoting
