import FaultFinder.Binary64.Word
import FaultFinder.Main
import FaultFinder.Proofs.Certainty.Combination
import FaultFinder.Proofs.Certainty.Percentage
import FaultFinder.Proofs.Diagnosis.Catalogue
import FaultFinder.Proofs.Diagnosis.Growth
import FaultFinder.Proofs.Diagnosis.Independence
import FaultFinder.Proofs.History.Failure
import FaultFinder.Proofs.KnowledgeBase.Faults
import FaultFinder.Proofs.KnowledgeBase.Text
import FaultFinder.Proofs.Presentation
import FaultFinder.Proofs.Service.Reading
import FaultFinder.Proofs.Settings.Words
import FaultFinder.Proofs.Startup.Checks
