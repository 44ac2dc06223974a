import SurveyIntake.Configuration.Writer
import SurveyIntake.Main
import SurveyIntake.Proofs.AddressForm
import SurveyIntake.Proofs.Answerable
import SurveyIntake.Proofs.Decoding
import SurveyIntake.Proofs.Directory
import SurveyIntake.Proofs.Document
import SurveyIntake.Proofs.Effects
import SurveyIntake.Proofs.Expiry
import SurveyIntake.Proofs.FirstFault
import SurveyIntake.Proofs.FullMatch
import SurveyIntake.Proofs.InFlight
import SurveyIntake.Proofs.Locality
import SurveyIntake.Proofs.Readback
import SurveyIntake.Proofs.Registration
import SurveyIntake.Proofs.Relocation
import SurveyIntake.Proofs.Separation
import SurveyIntake.Proofs.Sessions
import SurveyIntake.Proofs.Subjects
import SurveyIntake.Proofs.Tightening
