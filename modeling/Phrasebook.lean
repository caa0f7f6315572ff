import Phrasebook.Format.Counted
import Phrasebook.Format.Grouped
import Phrasebook.Format.RelativeTime
import Phrasebook.Main
import Phrasebook.Proofs.Interpolation
import Phrasebook.Proofs.Resolution
import Phrasebook.Proofs.Command
import Phrasebook.Proofs.Failure
import Phrasebook.Proofs.Data
import Phrasebook.Proofs.StoredText
import Phrasebook.Proofs.SpokenNumber
import Phrasebook.Proofs.LeafKeys
import Phrasebook.Proofs.NothingMissing
import Phrasebook.Proofs.Coverage
import Phrasebook.Proofs.PlainSearch
import Phrasebook.Proofs.Rewriting
import Phrasebook.Proofs.HeadedPattern
import Phrasebook.Proofs.HeadedProgram
import Phrasebook.Proofs.EnglishRules
import Phrasebook.Proofs.WordOrder
import Phrasebook.Proofs.JoinedWords
import Phrasebook.Proofs.EnglishJoints
import Phrasebook.Proofs.BritishPhrase
import Phrasebook.Proofs.OrderedData
import Phrasebook.Proofs.ExactData
import Phrasebook.Proofs.Fallback
import Phrasebook.Proofs.AmericanPhrase
import Phrasebook.Proofs.SameWords
import Phrasebook.Proofs.ListedKeys
import Phrasebook.Proofs.Replacement
import Phrasebook.Proofs.History
import Phrasebook.Proofs.RememberedFiles
import Phrasebook.Proofs.CompiledMapping
import Phrasebook.Proofs.RegistryHistory
import Phrasebook.Proofs.Substitution
import Phrasebook.Proofs.LeastEdits
import Phrasebook.Proofs.NormalReplacement
import Phrasebook.Proofs.TimeSplit
import Phrasebook.Proofs.NearNames
import Phrasebook.Proofs.ChosenForm
import Phrasebook.Proofs.Divergence
import Phrasebook.Proofs.FoundPlaces
import Phrasebook.Proofs.Insertion
import Phrasebook.Proofs.NearestDouble
import Phrasebook.Proofs.ShortestDecimal
import Phrasebook.Proofs.DoubleBits
import Phrasebook.Proofs.WrittenNumber
import Phrasebook.Proofs.GivenVariable
import Phrasebook.Proofs.LeftmostTokens
import Phrasebook.Proofs.RememberedRules
import Phrasebook.Proofs.FirstFault
import Phrasebook.Proofs.WrittenLocale
import Phrasebook.Proofs.WordPlaces
import Phrasebook.Proofs.MissingKeys
import Phrasebook.Proofs.GivenForms
