import Indentation.Main
import Indentation.Proofs.BehindColon
import Indentation.Proofs.DecodedLines
import Indentation.Proofs.EscapedBlank
import Indentation.Proofs.Evidence
import Indentation.Proofs.Expectation
import Indentation.Proofs.FirstLineSearch
import Indentation.Proofs.Json.Datum
import Indentation.Proofs.Levels
import Indentation.Proofs.LineEnds
import Indentation.Proofs.LineLayout
import Indentation.Proofs.ListedLine
import Indentation.Proofs.LongestOption
import Indentation.Proofs.Noise
import Indentation.Proofs.Overlong
import Indentation.Proofs.PassedOver
import Indentation.Proofs.PureIndentation
import Indentation.Proofs.Reordering
import Indentation.Proofs.Repetition
import Indentation.Proofs.Report
import Indentation.Proofs.SettingsRun
import Indentation.Proofs.SignatureText
import Indentation.Proofs.TabChoice
import Indentation.Proofs.TabStops
import Indentation.Service.Respond
