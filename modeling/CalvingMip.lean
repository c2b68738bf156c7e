import CalvingMip.Array
import CalvingMip.Sampler
import CalvingMip.Grid
import CalvingMip.Generator
import CalvingMip.Pipeline
import CalvingMip.Support
import CalvingMip.Distance
import CalvingMip.Symmetry
import CalvingMip.Values
import CalvingMip.PythonBindings.Config
import CalvingMip.Script
