/-!
# Rows of the parse table

One number per state, in pages of forty. `actionRows` holds, from the low end: four bits that number the group of
context tokens, four bits that number the lexical mode, then a field of 22 bits for each set of terminals with the
same moves, in the order of their first terminals other than the end of input (13 bits for the moves, 9 for the set;
set 1 is the end of input alone). `gotoRows` holds a field
of 18 bits for each nonterminal that leads on (11 bits for the state, 7 for the nonterminal). No field is zero.
-/

namespace Bookmarklet.Script.Grammar

/-- What each state does on a token. -/
def actionRows : List (List Nat) := [
  [0x180180400200,
   0x2001161b7057304152620537741426104f0780180184c2bc12ddc0482b8118790451d8109390410f40fc7503d1d00ec3c0381280d8370341e00c86a0314900bcc002d2fc0ad2302805c09d220242b40894e02016c07cbe01d48406d200190200594d01501c04d1f010f800380200c4a00280c0086d811,
   0x1a92e068eec1992d0573041526206498414cc3062b4c13c1e006006130af04b770120ae0602c4118790451d8109290410f40fc7503d1d00ec3c03812c0d8370341e00c86a0314900bcc002d2fc0ad2302805c09d220242b40894e02016c07cbe01d48406d200190200593a01501c04d1f010f801783b05cd580380205af4c0307b00869411,
   0x1a92e068eec1992d0573041526206498414cc3062b4c13c1e006006130af04b770120ae0602c4118790451d8109290410f40fc7503d1d00ec3c03812c0d8370341e00c86a0314900bcc002d2fc0ad2302805c09d220242b40894e02016c07cbe01d48406d200190200593a01501c04d1f010f8017a5c05cd580380205af4c0307b00869411,
   0x1a92e068eec1992d0573041526206498414cc3062b4c13c1e006006130af04b770120ae0602c4118790451d8109290410f40fc7503d1d00ec3c03812c0d8370341e00c86a0314900bcc002d2fc0ad2302805c09d220242b40894e02016c07cbe01d48406d200190200593a01501c04d1f010f8017a5f05cd580380205af4c0307b00869411,
   0x1a930068eec1992f0573041526206498414cc3062b4c13c1e006006130af04b770120ae0602c4118790451d81092a0410f40fc7503d1d00ec3c03812c0d8370341e00c86a0314900bcc002d2fc0ad2302805c09d220242b40894e02016c07cbe01d48406d200190200594101501c04d1f010f80179f305cd580380205af4c030930086b411,
   0x1a932068eec199310573041526206498414cc3062b4c13c1e006006130af04b770120ae0602c4118790451d81092b0410f40fc7503d1d00ec3c03812c0d8370341e00c86a0314900bcc002d2fc0ad2302805c09d220242b40894e02016c07cbe01d48406d200190200594201501c04d1f010f80179f305cd580380205af4c0309b0086b811,
   0x160298560a21502785209a1402584e0920180184c08e128228480861182084407e1081e8400760f81c83c06e0e81a8380660d81883405e0c8168300560b81482c04e0a8128280460981082403e0880e8200360780c81c02e0680a8180260580881401e048068100160380486c0050300380800a11,
   0x161b7057304152620537741426104f0780180184c2bc12ddc0482b8118790451d8109390410f40fc7503d1d00ec3c0381280d8370341e00c86a0314900bcc002d2fc0ad2302805c09d220242b40894e02016c07cbe01d48406d200190200594d01501c04d1f010f800380206e009031280086d811,
   0x161b7057304152620537741426104f0780180184c2bc12ddc0482b8118790451d8109390410f40fc7503d1d00ec3c0381280d8370341e00c86a0314900bcc002d2fc0ad2302805c09d220242b40894e02016c07cbe01d48406d200190200594d01501c04d1f010f800380206e00d031280086d811,
   0x161b7057304152620537741426104f0780180184c2bc12ddc0482b8118790451d8109390410f40fc7503d1d00ec3c0381280d8370341e00c86a0314900bcc002d2fc0ad2302805c09d220242b40894e02016c07cbe01d48406d200190200594d01501c04d1f010f800380206e011031280086d811,
   0x161b7057304152620537741426104f0780180184c2bc12ddc0482b8118790451d8109390410f40fc7503d1d00ec3c0381280d8370341e00c86a0314900bcc002d2fc0ad2302805c09d220242b40894e02016c07cbe01d48406d200190200594d01501c04d1f010f800380206e015031280086d811,
   0x8064586dc15cc105498814ddd05098413c1e006006130af04b770120ae0461e4114760424e41043d03f1d40f47403b0f00e04a0360dc0d0780321a80c52402f3000b4bf02b48c0a017027488090ad0225380805b01f2f80752101b480064080165340540701347c043e000e008031280086d811,
   0x8064586dc15cc105498814ddd05098413c1e006006130af04b770120ae0461e4114760424e41043d03f1d40f47403b0f00e04a0360dc0d0780321a80c52402f3000b4bf02b48c0a017027488090ad0225380805b01f2f80752101b480064080165340540701347c043e000e008031280086d811,
   0x8074586dc15cc105498814ddd05098413c1e006006130af04b770120ae0461e4114760424e41043d03f1d40f47403b0f00e04a0360dc0d0780321a80c52402f3000b4bf02b48c0a017027488090ad0225380805b01f2f80752101b480064080165340540701347c043e000e008031280086d811,
   0x161b7057304152620537741426104f0780180184c2bc12ddc0482b8118790451d8109390410f40fc7503d1d00ec3c0381280d8370341e00c86a0314900bcc002d2fc0ad2302805c09d220242b40894e02016c07cbe01d48406d200190200594d01501c04d1f010f801793300e008031280086d811,
   0x161b7057304152620537741426104f0780180184c2bc12ddc0482b8118790451d8109390410f40fc7503d1d00ec3c0381280d8370341e00c86a0314900bcc002d2fc0ad2302805c09d220242b40894e02016c07cbe01d48406d200190200594d01501c04d1f010f801793400e008031280086d811,
   0x161b7057304152620537741426104f0780180184c2bc12ddc0482b8118790451d8109390410f40fc7503d1d00ec3c0381280d8370341e00c86a0314900bcc002d2fc0ad2302805c09d220242b40894e02016c07cbe01d48406d200190200594d01501c04d1f010f801783f00e008031280086d811,
   0x161b7057304152620537741426104f0780180184c2bc12ddc0482b8118790451d8109390410f40fc7503d1d00ec3c0381280d8370341e00c86a0314900bcc002d2fc0ad2302805c09d220242b40894e02016c07cbe01d48406d200190200594d01501c04d1f010f801784000e008031280086d811,
   0x161b7057304152620537741426104f0780180184c2bc12ddc0482b8118790451d8109390410f40fc7503d1d00ec3c0381280d8370341e00c86a0314900bcc002d2fc0ad2302805c09d220242b40894e02016c07cbe01d48406d200190200594d01501c04d1f010f80179fa00e008031280086d811,
   0x161b7057304152620537741426104f0780180184c2bc12ddc0482b8118790451d8109390410f40fc7503d1d00ec3c0381280d8370341e00c86a0314900bcc002d2fc0ad2302805c09d220242b40894e02016c07cbe01d48406d200190200594d01501c04d1f010f80179f900e008031280086d811,
   0x161b7057304152620537741426104f0780180184c2bc12ddc0482b8118790451d8109390410f40fc7503d1d00ec3c0381280d8370341e00c86a0314900bcc002d2fc0ad2302805c09d220242b40894e02016c07cbe01d48406d200190200594d01501c04d1f010f801795f00e008031280086d811,
   0x161b7057304152620537741426104f0780180184c2bc12ddc0482b8118790451d8109390410f40fc7503d1d00ec3c0381280d8370341e00c86a0314900bcc002d2fc0ad2302805c09d220242b40894e02016c07cbe01d48406d200190200594d01501c04d1f010f801796100e008031280086d811,
   0x5875015cc105498814ddd05098413c1e006006130af04b770120ae0461e4114bc04250c1046d03f1d40f47403b0f00e04a0360dc0d0780321a80c52402f3000b4bf02b48c0a017027748090ad0225380805b01f4600752101b7440640801658805407013740043e000e00c0312c00874c11,
   0x586dc15cc105498814ddd05098413c1e006006130af04b770120ae0461e4114760424e41043d03f1d40f47403b0f00e04a0360dc0d0780321a80c52402f3000b4bf02b48c0a017027488090ad0225380805b01f2f80752101b480064080165340540701347c043e000e008031280086d811,
   0x586dc15cc105498814ddd05098413c1e006006130af04b770120ae0461e4114760424e41043d03f1d40f47403b0f00e04a0360dc0d0780321a80c52402f3000b4bf02b48c0a017027488090ad0225380805b01f2f80752101b480064080165340540701347c043e000e008031280086d811,
   0x586dc15cc105498814ddd05098413c1e006006130af04b770120ae0461e4114760424e41043d03f1d40f47403b0f00e04a0360dc0d0780321a80c52402f3000b4bf02b48c0a017027488090ad0225380805b01f2f80752101b480064080165340540701347c043e000e008031280086d811,
   0x586dc15cc105498814ddd05098413c1e006006130af04b770120ae0461e4114760424e41043d03f1d40f47403b0f00e04a0360dc0d0780321a80c52402f3000b4bf02b48c0a017027488090ad0225380805b01f2f80752101b480064080165340540701347c043e000e008031280086d811,
   0x586dc15cc105498814ddd05098413c1e006006130af04b770120ae0461e4114760424e41043d03f1d40f47403b0f00e04a0360dc0d0780321a80c52402f3000b4bf02b48c0a017027488090ad0225380805b01f2f80752101b480064080165340540701347c043e000e008031280086d811,
   0x586dc15cc105498814ddd05098413c1e006006130af04b770120ae0461e4114760424e41043d03f1d40f47403b0f00e04a0360dc0d0780321a80c52402f3000b4bf02b48c0a017027488090ad0225380805b01f2f80752101b480064080165340540701347c043e000e008031280086d811,
   0x586dc15cc105498814ddd05098413c1e006006130af04b770120ae0461e4114760424e41043d03f1d40f47403b0f00e04a0360dc0d0780321a80c52402f3000b4bf02b48c0a017027488090ad0225380805b01f2f80752101b480064080165340540701347c043e000e008031280086d811,
   0x586dc15cc105498814ddd05098413c1e006006130af04b770120ae0461e4114760424e41043d03f1d40f47403b0f00e04a0360dc0d0780321a80c52402f3000b4bf02b48c0a017027488090ad0225380805b01f2f80752101b480064080165340540701347c043e000e008031280086d811,
   0x586dc15cc105498814ddd05098413c1e006006130af04b770120ae0461e4114760424e41043d03f1d40f47403b0f00e04a0360dc0d0780321a80c52402f3000b4bf02b48c0a017027488090ad0225380805b01f2f80752101b480064080165340540701347c043e000e008031280086d811,
   0x586dc15cc105498814ddd05098413c1e006006130af04b770120ae0461e4114760424e41043d03f1d40f47403b0f00e04a0360dc0d0780321a80c52402f3000b4bf02b48c0a017027488090ad0225380805b01f2f80752101b480064080165340540701347c043e000e008031280086d811,
   0x586dc15cc105498814ddd05098413c1e006006130af04b770120ae0461e4114760424e41043d03f1d40f47403b0f00e04a0360dc0d0780321a80c52402f3000b4bf02b48c0a017027488090ad0225380805b01f2f80752101b480064080165340540701347c043e000e008031280086d811,
   0x586dc15cc105498814ddd05098413c1e006006130af04b770120ae0461e4114760424e41043d03f1d40f47403b0f00e04a0360dc0d0780321a80c52402f3000b4bf02b48c0a017027488090ad0225380805b01f2f80752101b480064080165340540701347c043e000e008031280086d811,
   0x586dc15cc105498814ddd05098413c1e006006130af04b770120ae0461e4114760424e41043d03f1d40f47403b0f00e04a0360dc0d0780321a80c52402f3000b4bf02b48c0a017027488090ad0225380805b01f2f80752101b480064080165340540701347c043e000e008031280086d811,
   0x586dc15cc105498814ddd05098413c1e006006130af04b770120ae0461e4114760424e41043d03f1d40f47403b0f00e04a0360dc0d0780321a80c52402f3000b4bf02b48c0a017027488090ad0225380805b01f2f80752101b480064080165340540701347c043e000e008031280086d811,
   0x586dc15cc105498814ddd05098413c1e006006130af04b770120ae0461e4114760424e41043d03f1d40f47403b0f00e04a0360dc0d0780321a80c52402f3000b4bf02b48c0a017027488090ad0225380805b01f2f80752101b480064080165340540701347c043e000e008031280086d811,
   0x5875015cc105498814ddd05098413c1e006006130af04b770120ae0461e4114bc04250c1046d03f1d40f47403b0f00e04a0360dc0d0780321a80c52402f3000b4bf02b48c0a017027748090ad0225380805b01f4600752101b7440640801658805407013740043e000e00c0312c00874c11],
  [0x5875015cc105498814ddd05098413c1e006006130af04b770120ae0461e4114bc04250c1046d03f1d40f47403b0f00e04a0360dc0d0780321a80c52402f3000b4bf02b48c0a017027748090ad0225380805b01f4600752101b7440640801658805407013740043e000e00c0312c00874c11,
   0x5875015cc105498814ddd05098413c1e006006130af04b770120ae0461e4114bc04250c1046d03f1d40f47403b0f00e04a0360dc0d0780321a80c52402f3000b4bf02b48c0a017027748090ad0225380805b01f4600752101b7440640801658805407013740043e000e00c0312c00874c11,
   0x5875015cc105498814ddd05098413c1e006006130af04b770120ae0461e4114bc04250c1046d03f1d40f47403b0f00e04a0360dc0d0780321a80c52402f3000b4bf02b48c0a017027748090ad0225380805b01f4600752101b7440640801658805407013740043e000e00c0312c00874c11,
   0x5875015cc105498814ddd05098413c1e006006130af04b770120ae0461e4114bc04250c1046d03f1d40f47403b0f00e04a0360dc0d0780321a80c52402f3000b4bf02b48c0a017027748090ad0225380805b01f4600752101b7440640801658805407013740043e000e00c0312c00874c11,
   0x5875015cc105498814ddd05098413c1e006006130af04b770120ae0461e4114bc04250c1046d03f1d40f47403b0f00e04a0360dc0d0780321a80c52402f3000b4bf02b48c0a017027748090ad0225380805b01f4600752101b7440640801658805407013740043e000e00c0312c00874c11,
   0x5875015cc105498814ddd05098413c1e006006130af04b770120ae0461e4114bc04250c1046d03f1d40f47403b0f00e04a0360dc0d0780321a80c52402f3000b4bf02b48c0a017027748090ad0225380805b01f4600752101b7440640801658805407013740043e000e00c0312c00874c11,
   0x5875015cc105498814ddd05098413c1e006006130af04b770120ae0461e4114bc04250c1046d03f1d40f47403b0f00e04a0360dc0d0780321a80c52402f3000b4bf02b48c0a017027748090ad0225380805b01f4600752101b7440640801658805407013740043e000e00c0312c00874c11,
   0x5875015cc105498814ddd05098413c1e006006130af04b770120ae0461e4114bc04250c1046d03f1d40f47403b0f00e04a0360dc0d0780321a80c52402f3000b4bf02b48c0a017027748090ad0225380805b01f4600752101b7440640801658805407013740043e000e00c0312c00874c11,
   0x5875015cc105498814ddd05098413c1e006006130af04b770120ae0461e4114bc04250c1046d03f1d40f47403b0f00e04a0360dc0d0780321a80c52402f3000b4bf02b48c0a017027748090ad0225380805b01f4600752101b7440640801658805407013740043e000e00c0312c00874c11,
   0x5875015cc105498814ddd05098413c1e006006130af04b770120ae0461e4114bc04250c1046d03f1d40f47403b0f00e04a0360dc0d0780321a80c52402f3000b4bf02b48c0a017027748090ad0225380805b01f4600752101b7440640801658805407013740043e000e00c0312c00874c11,
   0x5875015cc105498814ddd05098413c1e006006130af04b770120ae0461e4114bc04250c1046d03f1d40f47403b0f00e04a0360dc0d0780321a80c52402f3000b4bf02b48c0a017027748090ad0225380805b01f4600752101b7440640801658805407013740043e000e00c0312c00874c11,
   0x5875015cc105498814ddd05098413c1e006006130af04b770120ae0461e4114bc04250c1046d03f1d40f47403b0f00e04a0360dc0d0780321a80c52402f3000b4bf02b48c0a017027748090ad0225380805b01f4600752101b7440640801658805407013740043e000e00c0312c00874c11,
   0x5875015cc105498814ddd05098413c1e006006130af04b770120ae0461e4114bc04250c1046d03f1d40f47403b0f00e04a0360dc0d0780321a80c52402f3000b4bf02b48c0a017027748090ad0225380805b01f4600752101b7440640801658805407013740043e000e00c0312c00874c11,
   0x5875015cc105498814ddd05098413c1e006006130af04b770120ae0461e4114bc04250c1046d03f1d40f47403b0f00e04a0360dc0d0780321a80c52402f3000b4bf02b48c0a017027748090ad0225380805b01f4600752101b7440640801658805407013740043e000e00c0312c00874c11,
   0x15cc10548dc14e1705081413c3a006006130d104b8c4120d00462481147d0424d41044003f2c40f4b003b1b00e04d0360d8090e5020174044c907202103b2f05a34c1c1b20086c422,
   0x15cc105498814ddd05098413c1e006006130af04b770120ae0461e4114b80424f01046503f1d40f47403b0f00e04a0360dc090ad02016c044ff07402103b2e05a2cc1c1ba0086ec23,
   0x15cc1054b4014e3805098413c1e006006130fb04b8d812111046294114b80425101046503f1d40f47403b0f00e04a0360e00911002016c044ff07602103b2e05a3f41c1d500876023,
   0x15cc10547ec14e2505081413c3a006006130e804b8c4120e70462681147d04252c1044003f2c40f4b003b1b00e04c0360e41e0084243e80805d01132403b2705a3a81c1e600879c22,
   0x15cc1054d2c14e4005081413c3a0060061311304b8dc121120462b01147d0425901044003f2c40f4b003b1b00e04c0360e81e8084244940805d01132403b2705a4541c1eb0087b022,
   0x824dc0180188002d1f80a47c02523,
   0x180188403123,
   0x180188403523,
   0x180188403923,
   0x821040180188603923,
   0x820f80180188602523,
   0x180188403d23,
   0x2098c0060061f81147c04123,
   0x209930060061f81347c04923,
   0x209940060061f81547c05123,
   0x209970060061f81747c05923,
   0x209990060061f81947c06123,
   0x2099a0060061f81b47c06923,
   0x2099b0060061f81d47c07123,
   0x2099f0060061f81f47c07923,
   0x573041526405385c1420504f0e80180184c34412e31048340180b10462481147d0424ec1044003f2c40f4b003b1b0222560381300d8360243940805d0113241705700ec9c1c1b80086e411,
   0x573041526405385c1420504f0e80180184c34412e31048340180b10462481147d0424ec1044003f2c40f4b003b1b0222560381300d8360243940805d0113241705700ec9c1c1b80086e411,
   0x573041526405385c1420504f0e80180184c34412e31048340180b10462481147d0424ec1044003f2c40f4b003b1b0222070381300d8360243940805d0113241705700ec9c1c1b80086e411,
   0x573041526405385c1420504f0e80180184c34412e31048340180b10462481147d0424ec1044003f2c40f4b003b1b0222500381300d8360243940805d0113241705700ec9c1c1b80086e411,
   0x573041526405385c1420504f0e80180184c34412e31048340180b10462481147d0424ec1044003f2c40f4b003b1b0222b60381300d8360243940805d0113241705700ec9c1c1b80086e411,
   0x573041526405385c1420504f0e80180184c34412e31048340180b10462481147d0424ec1044003f2c40f4b003b1b0222df0381300d8360243940805d0113241705700ec9c1c1b80086e411],
  [0x573041526405385c1420504f0e80180184c34412e31048340180b10462481147d0424ec1044003f2c40f4b003b1b0222fc0381300d8360243940805d0113241705700ec9c1c1b80086e411,
   0x57304152620537741426104f0780180184c2bc12ddc0482b8118790451d8109480410f40fc7503d1d00ec3c0381280d8370242b40805b019020059a401501c044ff00ecb8229ba0086ec11,
   0x57304152620537741426104f0780180184c2bc12ddc0482b8118790451d8109480410f40fc7503d1d00ec3c0381280d8370242b40805b019020059a401501c044ff00ecb8229ba0086ec11,
   0x57304152620537741426104f0780180184c2bc12ddc0482b8118790452f01094c0411b40fc7503d1d00ec3c0381280d8370242b40805b019020059a401501c044ff00ecb8229ba0086ec11,
   0x57304152620537741426104f0780180184c2bc12ddc0482b8118790452f01094c0411b40fc7503d1d00ec3c0381280d8370242b40805b019020059a401501c044ff00ecb8229ba0086ec11,
   0x57304152a30538941420504f0e80180184c3a012e3104839c180b20462681147d0424f81044003f2c40f4b003b1b0224220381380d8390243e80805d0113241705c00ecc01c1cb00873011,
   0x15cc1054b6014e1705081413c3a006006130d104b8c4120d00462481147d04251c1044003f2c40f4b003b1b00e04f0360d8090e50225380805d0190300597601502c044c900ecc4229dd00877811,
   0x15cc105499014e1705081413c3a006006130d104b8c4120d00602c4118920451f41093b0411000fcb103d2c00ec6c0381300d8360243940805d0113242302a80ec9c1c1b80086e411,
   0x57304152fb05385c1420504f0e80180184c34412e31048340180b20462481147d0425281044003f2c40f4b003b1b0224a30381400d8360243940805d0113241705c00ecc81c1e400879411,
   0x57304152a30538941420504f0e80180184c3a012e3104839c180b20462681147d0424f81044003f2c40f4b003b1b0224a30381380d8390243e80805d0113241705c00ecc01c1cb00873011,
   0x15cc1054b6014e1705081413c3a006006130d104b8c4120d00462481147d04251c1044003f2c40f4b003b1b00e04f0360d8090e50225380805d0190300597601502c044c900ecc4229dd00877811,
   0x15cc105499014e1705081413c3a006006130d104b8c4120d00602c8118920451f41093b0411000fcb103d2c00ec6c0381300d83602439423d2c020174044c900ec9c1c1b80086e411,
   0x15cc1054a8c14e2505081413c3a006006130e804b8c4120e70602c81189a0451f41093e0411000fcb103d2c00ec6c0381380d8390243e80805d0113242302140ecc01c1cb00873011,
   0x15cc105499014e1705081413c3a006006130d104b8c4120d00602c8118920451f41093b0411000fcb103d2c00ec6c0381300d83602439423d2c020174044c900ec9c1c1b80086e411,
   0x15cc1054a8c14e2505081413c3a006006130e804b8c4120e70602c81189a0451f41093e0411000fcb103d2c00ec6c0381380d8390243e823d2c020174044c900ecc01c1cb00873011,
   0x573041523705385c1420504f0e80180184c34412e31048340180cb0462481147d0424d41044003f2c40f4b003b1b00e04d0360d8090e508e9f40805d0113241706100ecbc1c1b20086c411,
   0x15cc1054a8c14e2505081413c3a006006130e804b8c4120e70602c81189a0451f41093e0411000fcb103d2c00ec6c0381380d8390243e823d66020174044c900ecc01c1cb00873011,
   0x15cc10548dc14e1705081413c3a006006130d104b8c4120d006032c118920451f4109350411000fcb103d2c00ec6c0381340d8360243940805d0113242402040ecbc1c1b20086c411,
   0x15cc1054a8c14e2505081413c3a006006130e804b8c4120e70602c81189a0451f41093e0411000fcb103d2c00ec6c0381380d8390243e823d90020174044c900ecc01c1cb00873011,
   0x573041523705385c1420504f0e80180184c34412e31048340180cb0462481147d0424d41044003f2c40f4b003b1b00e04d0360d8090e508e86c0805d0113241706100ecbc1c1b20086c411,
   0x573041523705385c1420504f0e80180184c34412e31048340180cb0462481147d0424d41044003f2c40f4b003b1b00e04d0360d8090e508ef380805d0113241706100ecbc1c1b20086c411,
   0x15cc10548dc14e1705081413c3a006006130d104b8c4120d006032c118920451f4109350411000fcb103d2c00ec6c0381340d8360243940805d01132417c4c00ecbc1c1b20086c411,
   0x573041526405385c1420504f0e80180184c34412e31048340180b20462481147d0424ec1044003f2c40f4b003b1b00e04c0360d8090e5020174044c900ec9c1c1b80086e411,
   0x57304152a30538941420504f0e80180184c3a012e3104839c180b20462681147d0424f81044003f2c40f4b003b1b00e04e0360e4090fa020174044c900ecc01c1cb00873011,
   0x57304152a30538941420504f0e80180184c3a012e3104839c180b20462681147d0424f81044003f2c40f4b003b1b00e04e0360e4090fa020174044c900ecc01c1cb00873011,
   0x15cc10548dc14e1705081413c3a006006130d104b8c4120d006032c118920451f4109350411000fcb103d2c00ec6c0381340d8360243940805d01132417c5700ecbc1c1b20086c411,
   0x57304152620537741426104f0780180184c2bc12ddc0482b8118790452e01093c0411940fc7503d1d00ec3c0381280d8370242b42496c02016c044ff00ecb81c1ba0086ec14,
   0x573041523705385c1420504f0e80180184c34412e31048340118920451f4109350411000fcb103d2c00ec6c0381340d8360243940894e020174044c900ecbc1c1b20086c411,
   0x573041523705385c1420504f0e80180184c34412e31048340118920451f4109350411000fcb103d2c00ec6c0381340d8360243940894e020174044c900ecbc1c1b20086c411,
   0x573041523705385c1420504f0e80180184c34412e31048340118920451f4109350411000fcb103d2c00ec6c0381340d8360243940894e020174044c900ecbc1c1b20086c411,
   0x573041523705385c1420504f0e80180184c34412e31048340118920451f4109350411000fcb103d2c00ec6c0381340d8360243940894e020174044c900ecbc1c1b20086c411,
   0x57304153330538941420504f0e80180184c3a012e3104839c1189a0451f4109630411000fcb103d2c00ec6c03813c0d8390243e80805d0190ac059b00150a8044c900ecc4229e90087a811,
   0x573041523705385c1420504f0e80180184c34412e31048340118920451f4109350411000fcb103d2c00ec6c0381340d8360243942381f020174044c900ecbc1c1b20086c411,
   0x573041523705385c1420504f0e80180184c34412e31048340118920451f4109350411000fcb103d2c00ec6c0381340d83602439423821020174044c900ecbc1c1b20086c411,
   0x573041523705385c1420504f0e80180184c34412e31048340118920451f4109350411000fcb103d2c00ec6c0381340d83602439423822020174044c900ecbc1c1b20086c411,
   0x573041523705385c1420504f0e80180184c34412e31048340118920451f4109350411000fcb103d2c00ec6c0381340d83602439423825020174044c900ecbc1c1b20086c411,
   0x573041523705385c1420504f0e80180184c34412e31048340118920451f4109350411000fcb103d2c00ec6c0381340d8360243942382e020174044c900ecbc1c1b20086c411,
   0x573041523705385c1420504f0e80180184c34412e31048340118920451f4109350411000fcb103d2c00ec6c0381340d83602439423830020174044c900ecbc1c1b20086c411,
   0x573041523705385c1420504f0e80180184c34412e31048340118920451f4109350411000fcb103d2c00ec6c0381340d83602439423831020174044c900ecbc1c1b20086c411,
   0x573041523705385c1420504f0e80180184c34412e31048340118920451f4109350411000fcb103d2c00ec6c0381340d83602439423834020174044c900ecbc1c1b20086c411],
  [0x15cc105498814ddd05098413c1e006006130af04b770120ae0461e4114b80424f01046503f1d40f47403b0f00e04a0360dc090ad02016c044ff00ecb81c1ba0086ec11,
   0x57304152600538941426104f0780180184c3a012ddc04839c118790452e01093f0411940fc7503d1d0255ec03b1b00e04a0360e4090fa02016c044ff00ecb81c1cd00874831,
   0x15cc105498814ddd05098413c1e006006130af04b770120ae0461e4114b80424f01046503f1d40f47403b0f00e04a0360dc090ad02016c044ff00e0101c1ba0086ec11,
   0x57304018018a00912787a04549810de2041784200c509c0b20802b89b0200540705e9682602240efd82585105b30843,
   0x15cc10548dc14e1705081413c3a006006130d104b8c4120d00462481147d0424d41044003f2c40f4b003b1b00e04d0360d8090e5020174044c900ecbc1c1b20086c411,
   0x15cc10548dc14e1705081413c3a006006130d104b8c4120d00462481147d0424d41044003f2c40f4b003b1b00e04d0360d8090e5020174044c900ecbc1c1b20086c411,
   0x15cc105498814ddd05098413c1e006006130af04b770120ae0461e4114b80424f01046503f1d40f47403b0f00e04a0360dc090ad02016c044ff00e0101c1ba0086ec11,
   0x15cc10548dc14e1705081413c3a006006130d104b8c4120d00462481147d0424d41044003f2c40f4b003b1b00e04d0360d8090e5020174044c900ecbc1c1b20086c411,
   0x15cc105498814ddd05098413c1e006006130af04b770120ae0461e4114b80424f01046503f1d40f47403b0f00e04a0360dc090ad02016c044ff00e0101c1ba0086ec11,
   0x15cc105498814ddd05098413c1e006006130af04b770120ae0461e4114b80424f01046503f1d40f47403b0f00e04a0360dc090ad02016c044ff00e0101c1ba0086ec11,
   0x15cc105498814ddd05098413c1e006006130af04b770120ae0461e4114b80424f01046503f1d40f47403b0f00e04a0360dc090ad02016c044ff00e0101c1ba0086ec11,
   0x15cc105498814ddd05098413c1e006006130af04b770120ae0461e4114b80424f01046503f1d40f47403b0f00e04a0360dc090ad02016c044ff00e0101c1ba0086ec11,
   0x15cc10548dc14e1705081413c3a006006130d104b8c4120d00462481147d0424d41044003f2c40f4b003b1b00e04d0360d8090e5020174044c900ecbc1c1b20086c411,
   0x15cc10548dc14e1705081413c3a006006130d104b8c4120d00462481147d0424d41044003f2c40f4b003b1b00e04d0360d8090e5020174044c900ecbc1c1b20086c411,
   0x15cc10548dc14e1705081413c3a006006130d104b8c4120d00462481147d0424d41044003f2c40f4b003b1b00e04d0360d8090e5020174044c900ecbc1c1b20086c411,
   0x15cc10548dc14e1705081413c3a006006130d104b8c4120d00462481147d0424d41044003f2c40f4b003b1b00e04d0360d8090e5020174044c900ecbc1c1b20086c411,
   0x15cc10548dc14e1705081413c3a006006130d104b8c4120d00462481147d0424d41044003f2c40f4b003b1b00e04d0360d8090e5020174044c900ecbc1c1b20086c411,
   0x15cc10548dc14e1705081413c3a006006130d104b8c4120d00462481147d0424d41044003f2c40f4b003b1b00e04d0360d8090e5020174044c900ecbc1c1b20086c411,
   0x15cc10548dc14e1705081413c3a006006130d104b8c4120d00462481147d0424d41044003f2c40f4b003b1b00e04d0360d8090e5020174044c900ecbc1c1b20086c411,
   0x15cc10548dc14e1705081413c3a006006130d104b8c4120d00462481147d0424d41044003f2c40f4b003b1b00e04d0360d8090e5020174044c900ecbc1c1b20086c411,
   0x15cc10548dc14e1705081413c3a006006130d104b8c4120d00462481147d0424d41044003f2c40f4b003b1b00e04d0360d8090e5020174044c900e0141c1b20086c411,
   0x15cc10548dc14e1705081413c3a006006130d104b8c4120d00462481147d0424d41044003f2c40f4b003b1b00e04d0360d8090e5020174044c900e0141c1b20086c411,
   0x15cc10548dc14e1705081413c3a006006130d104b8c4120d00462481147d0424d41044003f2c40f4b003b1b00e04d0360d8090e5020174044c900e0141c1b20086c411,
   0x15cc10548dc14e1705081413c3a006006130d104b8c4120d00462481147d0424d41044003f2c40f4b003b1b00e04d0360d8090e5020174044c900e0141c1b20086c411,
   0x15cc10548dc14e1705081413c3a006006130d104b8c4120d00462481147d0424d41044003f2c40f4b003b1b00e04d0360d8090e5020174044c900e0141c1b20086c411,
   0x15cc10548dc14e1705081413c3a006006130d104b8c4120d00462481147d0424d41044003f2c40f4b003b1b00e04d0360d8090e5020174044c900e0141c1b20086c411,
   0x57304151fb0538941420504f0e80180184c3a012e3104839c118920451f4109360411000fcb103d2c02561f03b1b00e04d0360e4090fa020174044c900ecbc1c1b30086d031,
   0x57304018018a00912787a04549810de2041784200c509c0b20802b89b0200540705e9442602240efd82585105b30843,
   0x15cc10547ec14e2505081413c3a006006130e804b8c4120e70462681147d04252c1044003f2c40f4b003b1b00e04c0360e4090fa020174044c900e0181c1e600879c11,
   0x15cc10547ec14e2505081413c3a006006130e804b8c4120e70462681147d04252c1044003f2c40f4b003b1b00e04c0360e4090fa020174044c900e0181c1e600879c11,
   0x15cc10547ec14e2505081413c3a006006130e804b8c4120e70462681147d04252c1044003f2c40f4b003b1b00e04c0360e4090fa020174044c900e0181c1e600879c11,
   0x15cc10547ec14e2505081413c3a006006130e804b8c4120e70462681147d04252c1044003f2c40f4b003b1b00e04c0360e4090fa020174044c900e0181c1e600879c11,
   0x15cc10547ec14e2505081413c3a006006130e804b8c4120e70462681147d04252c1044003f2c40f4b003b1b00e04c0360e4090fa020174044c900e0181c1e600879c11,
   0x15cc10547ec14e2505081413c3a006006130e804b8c4120e70462681147d04252c1044003f2c40f4b003b1b00e04c0360e4090fa020174044c900e0181c1e600879c11,
   0x57304151fb0538941420504f0e80180184c3a012e3104839c1189a0451f41094b0411000fcb103d2c02561f03b1b00e04c0360e4090fa020174044c900ec9c1c1e600879c31,
   0x57304018018a00912787a04549810de2041784200c509c0b20802b89b0200540705e83c2602240efd82585105b30843,
   0x15cc1054b4014e3805098413c1e006006130fb04b8d812111046294114b80425101046503f1d40f47403b0f00e04a0360e00911002016c044ff00e0101c1d500876011,
   0x15cc10548dc14e1705081413c3a006006130d104b8c4120d00462481147d0424d41044003f2c40f4b003b1b00e04d0360d8090e5020174044c900ecbc1c1b20086c411,
   0x15cc1054b4014e3805098413c1e006006130fb04b8d812111046294114b80425101046503f1d40f47403b0f00e04a0360e00911002016c044ff00e0101c1d500876011,
   0x15cc10548dc14e1705081413c3a006006130d104b8c4120d00462481147d0424d41044003f2c40f4b003b1b00e04d0360d8090e5020174044c900ecbc1c1b20086c411],
  [0x15cc1054b4014e3805098413c1e006006130fb04b8d812111046294114b80425101046503f1d40f47403b0f00e04a0360e00911002016c044ff00e0101c1d500876011,
   0x15cc1054b4014e3805098413c1e006006130fb04b8d812111046294114b80425101046503f1d40f47403b0f00e04a0360e00911002016c044ff00e0101c1d500876011,
   0x15cc1054b4014e3805098413c1e006006130fb04b8d812111046294114b80425101046503f1d40f47403b0f00e04a0360e00911002016c044ff00e0101c1d500876011,
   0x15cc1054b4014e3805098413c1e006006130fb04b8d812111046294114b80425101046503f1d40f47403b0f00e04a0360e00911002016c044ff00e0101c1d500876011,
   0x15cc10548dc14e1705081413c3a006006130d104b8c4120d00462481147d0424d41044003f2c40f4b003b1b00e04d0360d8090e5020174044c900ecbc1c1b20086c411,
   0x57304152600538941426104f0780180184c3a012e3604839c118a50452e0109450411940fc7503d1d0255ec03b1b00e04a0360e4090fa02016c044ff00ecb81c1d600875c31,
   0x15cc1054d2c14e4005081413c3a0060061311304b8dc121120462b01147d0425901044003f2c40f4b003b1b00e04c0360e809125020174044c900e0181c1eb0087b011,
   0x15cc1054d2c14e4005081413c3a0060061311304b8dc121120462b01147d0425901044003f2c40f4b003b1b00e04c0360e809125020174044c900e0181c1eb0087b011,
   0x15cc1054d2c14e4005081413c3a0060061311304b8dc121120462b01147d0425901044003f2c40f4b003b1b00e04c0360e809125020174044c900e0181c1eb0087b011,
   0x15cc1054d2c14e4005081413c3a0060061311304b8dc121120462b01147d0425901044003f2c40f4b003b1b00e04c0360e809125020174044c900e0181c1eb0087b011,
   0x15cc1054d2c14e4005081413c3a0060061311304b8dc121120462b01147d0425901044003f2c40f4b003b1b00e04c0360e809125020174044c900e0181c1eb0087b011,
   0x15cc1054d2c14e4005081413c3a0060061311304b8dc121120462b01147d0425901044003f2c40f4b003b1b00e04c0360e809125020174044c900e0181c1eb0087b011,
   0x57304151fb0538941420504f0e80180184c3a012e3704839c118ac0451f4109650411000fcb103d2c02561f03b1b00e04c0360e4090fa020174044c900ec9c1c1ed0087b831,
   0x15cc105498814ddd05098413c1e006006130af04b770120ae0461e4114b80424f01046503f1d40f47403b0f00e04a0360dc090ad02016c044ff00ecb81c1ba0086ec11,
   0x15cc105498814ddd05098413c1e006006130af04b770120ae0461e4114b80424f01046503f1d40f47403b0f00e04a0360dc090ad02016c044ff00ecb81c1ba0086ec11,
   0x15cc105498814ddd05098413c1e006006130af04b770120ae0461e4114b80424f01046503f1d40f47403b0f00e04a0360dc090ad02016c044ff00ecb81c1ba0086ec11,
   0x15cc105498814ddd05098413c1e006006130af04b770120ae0461e4114b80424f01046503f1d40f47403b0f00e04a0360dc090ad02016c044ff00ecb81c1ba0086ec11,
   0x15cc1054b5814e1705081413c3a006006130d104b8c4120d00462481147d0425181044003f2c40f4b003b1b00e04c0360d8090e5020174044c900ec9c1c1db00877011,
   0x15cc1054a9014e2505081413c3a006006130e804b8c4120e70462681147d0425001044003f2c40f4b003b1b00e04e0360e4090fa020174044c900ecc01c1ce00873c11,
   0x15cc105498814ddd05098413c1e006006130af04b770120ae0461e4114b80424f01046503f1d40f47403b0f00e04a0360dc090ad02016c044ff00ecb81c1ba0086ec11,
   0x15cc10547ec14e2505081413c3a006006130e804b8c4120e70462681147d04252c1044003f2c40f4b003b1b00e04c0360e4090fa020174044c900ec9c1c1e600879c11,
   0x15cc105498814ddd05098413c1e006006130af04b770120ae0461e4114b80424f01046503f1d40f47403b0f00e04a0360dc090ad02016c044ff00ecb81c1ba0086ec11,
   0x15cc105498814ddd05098413c1e006006130af04b770120ae0461e4114b80424f01046503f1d40f47403b0f00e04a0360dc090ad02016c044ff00ecb81c1ba0086ec11,
   0x15cc10547ec14e2505081413c3a006006130e804b8c4120e70462681147d04252c1044003f2c40f4b003b1b00e04c0360e4090fa020174044c900ec9c1c1e600879c11,
   0x15cc105498814ddd05098413c1e006006130af04b770120ae0461e4114b80424f01046503f1d40f47403b0f00e04a0360dc090ad02016c044ff00ecb81c1ba0086ec11,
   0x15cc105498814ddd05098413c1e006006130af04b770120ae0461e4114b80424f01046503f1d40f47403b0f00e04a0360dc090ad02016c044ff00ecb81c1ba0086ec11,
   0x15cc105498814ddd05098413c1e006006130af04b770120ae0461e4114b80424f01046503f1d40f47403b0f00e04a0360dc090ad02016c044ff00ecb81c1ba0086ec11,
   0x15cc105498814ddd05098413c1e006006130af04b770120ae0461e4114b80424f01046503f1d40f47403b0f00e04a0360dc090ad02016c044ff00ecb81c1ba0086ec11,
   0x15cc105498814ddd05098413c1e006006130af04b770120ae0461e4114b80424f01046503f1d40f47403b0f00e04a0360dc090ad02016c044ff00ecb81c1ba0086ec11,
   0x15cc105498814ddd05098413c1e006006130af04b770120ae0461e4114b80424f01046503f1d40f47403b0f00e04a0360dc090ad02016c044ff00ecb81c1ba0086ec11,
   0x15cc105498814ddd05098413c1e006006130af04b770120ae0461e4114b80424f01046503f1d40f47403b0f00e04a0360dc090ad02016c044ff00ecb81c1ba0086ec11,
   0x15cc105498814ddd05098413c1e006006130af04b770120ae0461e4114b80424f01046503f1d40f47403b0f00e04a0360dc090ad02016c044ff00ecb81c1ba0086ec11,
   0x15cc105498814ddd05098413c1e006006130af04b770120ae0461e4114b80424f01046503f1d40f47403b0f00e04a0360dc090ad02016c044ff00ecb81c1ba0086ec11,
   0x15cc105498814ddd05098413c1e006006130af04b770120ae0461e4114b80424f01046503f1d40f47403b0f00e04a0360dc090ad02016c044ff00ecb81c1ba0086ec11,
   0x15cc105498814ddd05098413c1e006006130af04b770120ae0461e4114b80424f01046503f1d40f47403b0f00e04a0360dc090ad02016c044ff00ecb81c1ba0086ec11,
   0x15cc105498814ddd05098413c1e006006130af04b770120ae0461e4114b80424f01046503f1d40f47403b0f00e04a0360dc090ad02016c044ff00ecb81c1ba0086ec11,
   0x15cc105498814ddd05098413c1e006006130af04b770120ae0461e4114b80424f01046503f1d40f47403b0f00e04a0360dc090ad02016c044ff00ecb81c1ba0086ec11,
   0x15cc105498814ddd05098413c1e006006130af04b770120ae0461e4114b80424f01046503f1d40f47403b0f00e04a0360dc090ad02016c044ff00ecb81c1ba0086ec11,
   0x15cc10548dc14e1705081413c3a006006130d104b8c4120d00462481147d0424d41044003f2c40f4b003b1b00e04d0360d8090e5020174044c900ecbc1c1b20086c411,
   0x15cc105498814ddd05098413c1e006006130af04b770120ae0461e4114b80424f01046503f1d40f47403b0f00e04a0360dc090ad02016c044ff00ecb81c1ba0086ec11],
  [0x15cc105498814ddd05098413c1e006006130af04b770120ae0461e4114b80424f01046503f1d40f47403b0f00e04a0360dc090ad02016c044ff00ecb81c1ba0086ec11,
   0x15cc105498814ddd05098413c1e006006130af04b770120ae0461e4114b80424f01046503f1d40f47403b0f00e04a0360dc090ad02016c044ff00ecb81c1ba0086ec11,
   0x15cc10548dc14e1705081413c3a006006130d104b8c4120d00462481147d0424d41044003f2c40f4b003b1b00e04d0360d8090e5020174044c900ecbc1c1b20086c411,
   0x15cc10548dc14e1705081413c3a006006130d104b8c4120d00462481147d0424d41044003f2c40f4b003b1b00e04d0360d8090e5020174044c900ecbc1c1b20086c411,
   0x15cc10548dc14e1705081413c3a006006130d104b8c4120d00462481147d0424d41044003f2c40f4b003b1b00e04d0360d8090e5020174044c900ecbc1c1b20086c411,
   0x15cc10548dc14e1705081413c3a006006130d104b8c4120d00462481147d0424d41044003f2c40f4b003b1b00e04d0360d8090e5020174044c900ecbc1c1b20086c411,
   0x15cc105498814ddd05098413c1e006006130af04b770120ae0461e4114b80424f01046503f1d40f47403b0f00e04a0360dc090ad02016c044ff00ecb81c1ba0086ec11,
   0x15cc10548dc14e1705081413c3a006006130d104b8c4120d00462481147d0424d41044003f2c40f4b003b1b00e04d0360d8090e5020174044c900ecbc1c1b20086c411,
   0x15cc10548dc14e1705081413c3a006006130d104b8c4120d00462481147d0424d41044003f2c40f4b003b1b00e04d0360d8090e5020174044c900ecbc1c1b20086c411,
   0x15cc10548dc14e1705081413c3a006006130d104b8c4120d00462481147d0424d41044003f2c40f4b003b1b00e04d0360d8090e5020174044c900ecbc1c1b20086c411,
   0x15cc10548dc14e1705081413c3a006006130d104b8c4120d00462481147d0424d41044003f2c40f4b003b1b00e04d0360d8090e5020174044c900ecbc1c1b20086c411,
   0x15cc10548dc14e1705081413c3a006006130d104b8c4120d00462481147d0424d41044003f2c40f4b003b1b00e04d0360d8090e5020174044c900ecbc1c1b20086c411,
   0x15cc10548dc14e1705081413c3a006006130d104b8c4120d00462481147d0424d41044003f2c40f4b003b1b00e04d0360d8090e5020174044c900ecbc1c1b20086c411,
   0x15cc10548dc14e1705081413c3a006006130d104b8c4120d00462481147d0424d41044003f2c40f4b003b1b00e04d0360d8090e5020174044c900ecbc1c1b20086c411,
   0x15cc10548dc14e1705081413c3a006006130d104b8c4120d00462481147d0424d41044003f2c40f4b003b1b00e04d0360d8090e5020174044c900ecbc1c1b20086c411,
   0x15cc10548dc14e1705081413c3a006006130d104b8c4120d00462481147d0424d41044003f2c40f4b003b1b00e04d0360d8090e5020174044c900ecbc1c1b20086c411,
   0x15cc10548dc14e1705081413c3a006006130d104b8c4120d00462481147d0424d41044003f2c40f4b003b1b00e04d0360d8090e5020174044c900ecbc1c1b20086c411,
   0x15cc10548dc14e1705081413c3a006006130d104b8c4120d00462481147d0424d41044003f2c40f4b003b1b00e04d0360d8090e5020174044c900ecbc1c1b20086c411,
   0x15cc10548dc14e1705081413c3a006006130d104b8c4120d00462481147d0424d41044003f2c40f4b003b1b00e04d0360d8090e5020174044c900ecbc1c1b20086c411,
   0x15cc10548dc14e1705081413c3a006006130d104b8c4120d00462481147d0424d41044003f2c40f4b003b1b00e04d0360d8090e5020174044c900ecbc1c1b20086c411,
   0x15cc10548dc14e1705081413c3a006006130d104b8c4120d00462481147d0424d41044003f2c40f4b003b1b00e04d0360d8090e5020174044c900ecbc1c1b20086c411,
   0x15cc10548dc14e1705081413c3a006006130d104b8c4120d00462481147d0424d41044003f2c40f4b003b1b00e04d0360d8090e5020174044c900ecbc1c1b20086c411,
   0x15cc10548dc14e1705081413c3a006006130d104b8c4120d00462481147d0424d41044003f2c40f4b003b1b00e04d0360d8090e5020174044c900ecbc1c1b20086c411,
   0x15cc10548dc14e1705081413c3a006006130d104b8c4120d00462481147d0424d41044003f2c40f4b003b1b00e04d0360d8090e5020174044c900ecbc1c1b20086c411,
   0x15cc10548dc14e1705081413c3a006006130d104b8c4120d00462481147d0424d41044003f2c40f4b003b1b00e04d0360d8090e5020174044c900ecbc1c1b20086c411,
   0x15cc10548dc14e1705081413c3a006006130d104b8c4120d00462481147d0424d41044003f2c40f4b003b1b00e04d0360d8090e5020174044c900ecbc1c1b20086c411,
   0x15cc10548dc14e1705081413c3a006006130d104b8c4120d00462481147d0424d41044003f2c40f4b003b1b00e04d0360d8090e5020174044c900ecbc1c1b20086c411,
   0x15cc1054d2c14e4005081413c3a0060061311304b8dc121120462b01147d0425901044003f2c40f4b003b1b00e04c0360e809125020174044c900ec9c1c1eb0087b011,
   0x15cc10548dc14e1705081413c3a006006130d104b8c4120d00462481147d0424d41044003f2c40f4b003b1b00e04d0360d8090e5020174044c900ecbc1c1b20086c411,
   0x15cc10548dc14e1705081413c3a006006130d104b8c4120d00462481147d0424d41044003f2c40f4b003b1b00e04d0360d8090e5020174044c900ecbc1c1b20086c411,
   0x15cc1054b4014e3805098413c1e006006130fb04b8d812111046294114b80425101046503f1d40f47403b0f00e04a0360e00911002016c044ff00ecb81c1d500876011,
   0x15cc10547ec14e2505081413c3a006006130e804b8c4120e70462681147d04252c1044003f2c40f4b003b1b00e04c0360e4090fa020174044c900ec9c1c1e600879c11,
   0x15cc10547ec14e2505081413c3a006006130e804b8c4120e70462681147d04252c1044003f2c40f4b003b1b00e04c0360e4090fa020174044c900ec9c1c1e600879c11,
   0x15cc10547ec14e2505081413c3a006006130e804b8c4120e70462681147d04252c1044003f2c40f4b003b1b00e04c0360e4090fa020174044c900ec9c1c1e600879c11,
   0x15cc10547ec14e2505081413c3a006006130e804b8c4120e70462681147d04252c1044003f2c40f4b003b1b00e04c0360e4090fa020174044c900ec9c1c1e600879c11,
   0x15cc10547ec14e2505081413c3a006006130e804b8c4120e70462681147d04252c1044003f2c40f4b003b1b00e04c0360e4090fa020174044c900ec9c1c1e600879c11,
   0x15cc10547ec14e2505081413c3a006006130e804b8c4120e70462681147d04252c1044003f2c40f4b003b1b00e04c0360e4090fa020174044c900ec9c1c1e600879c11,
   0x15cc10547ec14e2505081413c3a006006130e804b8c4120e70462681147d04252c1044003f2c40f4b003b1b00e04c0360e4090fa020174044c900ec9c1c1e600879c11,
   0x15cc10547ec14e2505081413c3a006006130e804b8c4120e70462681147d04252c1044003f2c40f4b003b1b00e04c0360e4090fa020174044c900ec9c1c1e600879c11,
   0x15cc10547ec14e2505081413c3a006006130e804b8c4120e70462681147d04252c1044003f2c40f4b003b1b00e04c0360e4090fa020174044c900ec9c1c1e600879c11],
  [0x15cc10547ec14e2505081413c3a006006130e804b8c4120e70462681147d04252c1044003f2c40f4b003b1b00e04c0360e4090fa020174044c900ec9c1c1e600879c11,
   0x15cc10547ec14e2505081413c3a006006130e804b8c4120e70462681147d04252c1044003f2c40f4b003b1b00e04c0360e4090fa020174044c900ec9c1c1e600879c11,
   0x15cc10547ec14e2505081413c3a006006130e804b8c4120e70462681147d04252c1044003f2c40f4b003b1b00e04c0360e4090fa020174044c900ec9c1c1e600879c11,
   0x15cc10547ec14e2505081413c3a006006130e804b8c4120e70462681147d04252c1044003f2c40f4b003b1b00e04c0360e4090fa020174044c900ec9c1c1e600879c11,
   0x15cc10547ec14e2505081413c3a006006130e804b8c4120e70462681147d04252c1044003f2c40f4b003b1b00e04c0360e4090fa020174044c900ec9c1c1e600879c11,
   0x15cc10547ec14e2505081413c3a006006130e804b8c4120e70462681147d04252c1044003f2c40f4b003b1b00e04c0360e4090fa020174044c900ec9c1c1e600879c11,
   0x15cc10547ec14e2505081413c3a006006130e804b8c4120e70462681147d04252c1044003f2c40f4b003b1b00e04c0360e4090fa020174044c900ec9c1c1e600879c11,
   0x15cc10547ec14e2505081413c3a006006130e804b8c4120e70462681147d04252c1044003f2c40f4b003b1b00e04c0360e4090fa020174044c900ec9c1c1e600879c11,
   0x15cc10547ec14e2505081413c3a006006130e804b8c4120e70462681147d04252c1044003f2c40f4b003b1b00e04c0360e4090fa020174044c900ec9c1c1e600879c11,
   0x15cc10547ec14e2505081413c3a006006130e804b8c4120e70462681147d04252c1044003f2c40f4b003b1b00e04c0360e4090fa020174044c900ec9c1c1e600879c11,
   0x15cc10547ec14e2505081413c3a006006130e804b8c4120e70462681147d04252c1044003f2c40f4b003b1b00e04c0360e4090fa020174044c900ec9c1c1e600879c11,
   0x15cc1054b4014e3805098413c1e006006130fb04b8d812111046294114b80425101046503f1d40f47403b0f00e04a0360e00911002016c044ff00ecb81c1d500876011,
   0x15cc1054b4014e3805098413c1e006006130fb04b8d812111046294114b80425101046503f1d40f47403b0f00e04a0360e00911002016c044ff00ecb81c1d500876011,
   0x15cc1054b4014e3805098413c1e006006130fb04b8d812111046294114b80425101046503f1d40f47403b0f00e04a0360e00911002016c044ff00ecb81c1d500876011,
   0x15cc1054b4014e3805098413c1e006006130fb04b8d812111046294114b80425101046503f1d40f47403b0f00e04a0360e00911002016c044ff00ecb81c1d500876011,
   0x15cc1054b4014e3805098413c1e006006130fb04b8d812111046294114b80425101046503f1d40f47403b0f00e04a0360e00911002016c044ff00ecb81c1d500876011,
   0x15cc10547ec14e2505081413c3a006006130e804b8c4120e70462681147d04252c1044003f2c40f4b003b1b00e04c0360e4090fa020174044c900ec9c1c1e600879c11,
   0x15cc1054b4014e3805098413c1e006006130fb04b8d812111046294114b80425101046503f1d40f47403b0f00e04a0360e00911002016c044ff00ecb81c1d500876011,
   0x15cc1054b4014e3805098413c1e006006130fb04b8d812111046294114b80425101046503f1d40f47403b0f00e04a0360e00911002016c044ff00ecb81c1d500876011,
   0x15cc1054b4014e3805098413c1e006006130fb04b8d812111046294114b80425101046503f1d40f47403b0f00e04a0360e00911002016c044ff00ecb81c1d500876011,
   0x15cc1054b4014e3805098413c1e006006130fb04b8d812111046294114b80425101046503f1d40f47403b0f00e04a0360e00911002016c044ff00ecb81c1d500876011,
   0x15cc1054b4014e3805098413c1e006006130fb04b8d812111046294114b80425101046503f1d40f47403b0f00e04a0360e00911002016c044ff00ecb81c1d500876011,
   0x15cc1054b4014e3805098413c1e006006130fb04b8d812111046294114b80425101046503f1d40f47403b0f00e04a0360e00911002016c044ff00ecb81c1d500876011,
   0x15cc1054b4014e3805098413c1e006006130fb04b8d812111046294114b80425101046503f1d40f47403b0f00e04a0360e00911002016c044ff00ecb81c1d500876011,
   0x15cc1054b4014e3805098413c1e006006130fb04b8d812111046294114b80425101046503f1d40f47403b0f00e04a0360e00911002016c044ff00ecb81c1d500876011,
   0x15cc1054b4014e3805098413c1e006006130fb04b8d812111046294114b80425101046503f1d40f47403b0f00e04a0360e00911002016c044ff00ecb81c1d500876011,
   0x15cc1054b4014e3805098413c1e006006130fb04b8d812111046294114b80425101046503f1d40f47403b0f00e04a0360e00911002016c044ff00ecb81c1d500876011,
   0x15cc1054b4014e3805098413c1e006006130fb04b8d812111046294114b80425101046503f1d40f47403b0f00e04a0360e00911002016c044ff00ecb81c1d500876011,
   0x15cc1054b4014e3805098413c1e006006130fb04b8d812111046294114b80425101046503f1d40f47403b0f00e04a0360e00911002016c044ff00ecb81c1d500876011,
   0x15cc10548dc14e1705081413c3a006006130d104b8c4120d00462481147d0424d41044003f2c40f4b003b1b00e04d0360d8090e5020174044c900ecbc1c1b20086c411,
   0x15cc1054b4014e3805098413c1e006006130fb04b8d812111046294114b80425101046503f1d40f47403b0f00e04a0360e00911002016c044ff00ecb81c1d500876011,
   0x15cc10547ec14e2505081413c3a006006130e804b8c4120e70462681147d04252c1044003f2c40f4b003b1b00e04c0360e4090fa020174044c900ec9c1c1e600879c11,
   0x15cc1054b4014e3805098413c1e006006130fb04b8d812111046294114b80425101046503f1d40f47403b0f00e04a0360e00911002016c044ff00ecb81c1d500876011,
   0x15cc1054b4014e3805098413c1e006006130fb04b8d812111046294114b80425101046503f1d40f47403b0f00e04a0360e00911002016c044ff00ecb81c1d500876011,
   0x15cc1054d2c14e4005081413c3a0060061311304b8dc121120462b01147d0425901044003f2c40f4b003b1b00e04c0360e809125020174044c900ec9c1c1eb0087b011,
   0x15cc1054d2c14e4005081413c3a0060061311304b8dc121120462b01147d0425901044003f2c40f4b003b1b00e04c0360e809125020174044c900ec9c1c1eb0087b011,
   0x15cc1054d2c14e4005081413c3a0060061311304b8dc121120462b01147d0425901044003f2c40f4b003b1b00e04c0360e809125020174044c900ec9c1c1eb0087b011,
   0x15cc1054d2c14e4005081413c3a0060061311304b8dc121120462b01147d0425901044003f2c40f4b003b1b00e04c0360e809125020174044c900ec9c1c1eb0087b011,
   0x15cc1054d2c14e4005081413c3a0060061311304b8dc121120462b01147d0425901044003f2c40f4b003b1b00e04c0360e809125020174044c900ec9c1c1eb0087b011,
   0x15cc1054d2c14e4005081413c3a0060061311304b8dc121120462b01147d0425901044003f2c40f4b003b1b00e04c0360e809125020174044c900ec9c1c1eb0087b011],
  [0x15cc1054d2c14e4005081413c3a0060061311304b8dc121120462b01147d0425901044003f2c40f4b003b1b00e04c0360e809125020174044c900ec9c1c1eb0087b011,
   0x15cc1054d2c14e4005081413c3a0060061311304b8dc121120462b01147d0425901044003f2c40f4b003b1b00e04c0360e809125020174044c900ec9c1c1eb0087b011,
   0x15cc1054d2c14e4005081413c3a0060061311304b8dc121120462b01147d0425901044003f2c40f4b003b1b00e04c0360e809125020174044c900ec9c1c1eb0087b011,
   0x15cc1054d2c14e4005081413c3a0060061311304b8dc121120462b01147d0425901044003f2c40f4b003b1b00e04c0360e809125020174044c900ec9c1c1eb0087b011,
   0x15cc1054d2c14e4005081413c3a0060061311304b8dc121120462b01147d0425901044003f2c40f4b003b1b00e04c0360e809125020174044c900ec9c1c1eb0087b011,
   0x15cc1054d2c14e4005081413c3a0060061311304b8dc121120462b01147d0425901044003f2c40f4b003b1b00e04c0360e809125020174044c900ec9c1c1eb0087b011,
   0x15cc1054d2c14e4005081413c3a0060061311304b8dc121120462b01147d0425901044003f2c40f4b003b1b00e04c0360e809125020174044c900ec9c1c1eb0087b011,
   0x15cc1054d2c14e4005081413c3a0060061311304b8dc121120462b01147d0425901044003f2c40f4b003b1b00e04c0360e809125020174044c900ec9c1c1eb0087b011,
   0x15cc1054d2c14e4005081413c3a0060061311304b8dc121120462b01147d0425901044003f2c40f4b003b1b00e04c0360e809125020174044c900ec9c1c1eb0087b011,
   0x15cc1054d2c14e4005081413c3a0060061311304b8dc121120462b01147d0425901044003f2c40f4b003b1b00e04c0360e809125020174044c900ec9c1c1eb0087b011,
   0x15cc1054d2c14e4005081413c3a0060061311304b8dc121120462b01147d0425901044003f2c40f4b003b1b00e04c0360e809125020174044c900ec9c1c1eb0087b011,
   0x15cc1054d2c14e4005081413c3a0060061311304b8dc121120462b01147d0425901044003f2c40f4b003b1b00e04c0360e809125020174044c900ec9c1c1eb0087b011,
   0x15cc1054d2c14e4005081413c3a0060061311304b8dc121120462b01147d0425901044003f2c40f4b003b1b00e04c0360e809125020174044c900ec9c1c1eb0087b011,
   0x15cc1054d2c14e4005081413c3a0060061311304b8dc121120462b01147d0425901044003f2c40f4b003b1b00e04c0360e809125020174044c900ec9c1c1eb0087b011,
   0x15cc10547ec14e2505081413c3a006006130e804b8c4120e70462681147d04252c1044003f2c40f4b003b1b00e04c0360e4090fa020174044c900ec9c1c1e600879c11,
   0x15cc10547ec14e2505081413c3a006006130e804b8c4120e70462681147d04252c1044003f2c40f4b003b1b00e04c0360e4090fa020174044c900ec9c1c1e600879c11,
   0x57304018018a00912787a04549810de2041784200b009c06026c0801501c2882240efd82585105b30843,
   0x6aeb82a5390060062802449e1e81148403f2d40f4b40380be200c509c0b20802e85e9682982245a0b62953c0094f443,
   0x6aeb82a5390060062802449e1e81148403f2d40f4b40380be200c509c0b20802e85e9442982245a0b62953c0094f443,
   0x6aeb82a5390060062802449e1e81148403f2d40f4b40380be200c509c0b20802e85e83c2982245a0b62953c0094f443,
   0x57304018018a00912787a04549810de2041784200b009c09c26c0801501c2882240efd82585305b30843,
   0x1abbe0a94e4018018a00912787a042ebc0fcb503d2d00e02f8803142702c8200ae17a5a0a60891682d8ab7c443,
   0xa94e4018018a00912787a03f2d40f4b40380be200c509c0b20802b85e9682b8224ad7c443,
   0x1abbe0a94e4018018a00912787a042ebc0fcb503d2d00e02f8803142702c8200ae17a510a60891682d8ab7c443,
   0xa94e4018018a00912787a03f2d40f4b40380be200c509c0b20802b85e9442b8224ad7c443,
   0x1abbe0a94e4018018a00912787a042ebc0fcb503d2d00e02f8803142702c8200ae17a0f0a60891682d8ab7c443,
   0xa94e4018018a00912787a03f2d40f4b40380be200c509c0b20802b85e83c2b8224ad7c443,
   0x824e0018018b003914,
   0x824dc018018b002514,
   0x60062802449e2301148e080348080308b40892ce1c00987442,
   0x60062802449e2301148e0803a4080308b40892ce1c00987442,
   0x18018b003911,
   0x18018b003d11,
   0x18018a00912787a045210200b009c060080308b60892cde90097a843,
   0x60062802449e1e80e0550803142702c8200ae17a5a00ed682b8224090fc43,
   0x18018a00912788c045238200328200c22e8318b80892ce1c00987442,
   0x60062802449e1e8114bb0802c0080308bc0892cde90097a843,
   0x18018c15142fce107c09911,
   0x18018a009127894045238200338200c22e8254b80892ce290098a842,
   0x60062802449e1e8114bb0803a4080308bc0892cde90097a843],
  [0x18018a009127894045238200e90200c22e8274b80892ce290098a842,
   0x60062802449e1e80e0550803142702c8200ae17a5100ed682b8224090fc43,
   0x60062802449e1e80e0550803142702c8200ae17a0f00ed682b8224090fc43,
   0x18018a00912787a0452f4200b009c09c080308b60892cde90097a843,
   0x60062802449e270114bb0803f0080308c20892ce3b0098f043,
   0x60062802449e270114bb0803a4080308c20892ce3b0098f043,
   0x18018a00912788c045238200d20200c2310348b80892ce1c00987442,
   0x60062802449e2301148e080348328860c80d6080308c60892ce1c00987442,
   0x60062802449e1e8114840802c0080308cc0892cde90097a843,
   0x60063054507c0a111,
   0x60062802449e2301148e0880c6200328200c2170254b80892ce1c00987442,
   0x60062802449e2501148e0803a4080308ce0892ce290098a842,
   0x60062802449e1e8114bd0802c0080308cc0892cde90097a843,
   0x60062802449e1e80e0550802c02701800ed68340224090fc43,
   0x18018d20a511,
   0x60063581e0d40a911,
   0x826300180187c04114,
   0x6006249920d80ad14,
   0x18018da0b111,
   0x8264c0180187c04914,
   0x826500180187c05114,
   0x8265c0180187c05914,
   0x826640180187c06114,
   0x826680180187c06914,
   0x8266c0180187c07114,
   0x8267c0180187c07914,
   0x18018da0b511,
   0x18018dc03114,
   0x18018dc03514,
   0x18018dc03914,
   0x18018dc0b914,
   0x825740180187c02514,
   0x18018dc03d14,
   0x825800180187c03914,
   0x60062802449e1e80e0550802c02702700ed68340224090fc43,
   0x60062802449e2501148e0803a4328860c80d6080308de0892ce290098a842,
   0x60062802449e2981148e080450080308e00892ce4200990c42,
   0x60062802449e2981148e0803a4080308e00892ce4200990c42,
   0x180187c0bd11,
   0x180187c0c111],
  [0x180187c0c511,
   0x180187c0c911,
   0x180187c0cd11,
   0x180187c0d111,
   0x180187c0d511,
   0x180187c0d911,
   0x180187c0dd11,
   0x180187c0e111,
   0x180187c0e511,
   0x180187c0e911,
   0x180187c0ed11,
   0x180187c0f111,
   0x180187c0f511,
   0x180187c0f911,
   0x18018a00912788c038154200d20ca2183203580ed683882240904c42,
   0x180187c0fd11,
   0x180187c10111,
   0x180187c10511,
   0x180187c10911,
   0x180187c10d11,
   0x180187c11111,
   0x180187c11511,
   0x180187c0dd11,
   0x180187c11911,
   0x180187c11911,
   0x180187c11d11,
   0x180187c12111,
   0x180187c12111,
   0x180187c12511,
   0x180187c12911,
   0x180187c12d11,
   0x180187c13111,
   0x180187c13511,
   0x180187c13911,
   0x180187c13d11,
   0x180187c14111,
   0x180187c14511,
   0x180187c14911,
   0x180187c14d11,
   0x180187c14d11],
  [0x180187c15111,
   0x180187c15511,
   0x180187c15911,
   0x180187c15d11,
   0x180187c16111,
   0x180187c16511,
   0x180187c16511,
   0x180187c16911,
   0x180187c16d11,
   0x180187c17111,
   0x180187c17511,
   0x180187c17911,
   0x180187c17d11,
   0x180187c18111,
   0x180187c18511,
   0x180187c18911,
   0x180187c18d11,
   0x180187c19111,
   0x180187c19511,
   0x180187c19911,
   0x18018a00912787a038154200b000ed68390224090fc43,
   0x18018a01a12787e08031c2702c8200da17a5a0b619d43,
   0x18018e61a542,
   0x18018e61a942,
   0x18018e61ad42,
   0x18018e61b142,
   0x18018e61b542,
   0x18018e61b942,
   0x18018e60b942,
   0x18018a01a12787e08031c2702c8200da17a510b619d43,
   0x18018a01a12787e08031c2702c8200da17a0f0b619d43,
   0x18018a01a1200eb0e819d42,
   0x18018a0091278940380de200e90ca2183203580ed683a8224093e442,
   0x60062806849e234200d40ec19d42,
   0x60062802449e230200d20ec08942,
   0x60062802449e230200e90ec08942,
   0x60062806849e234200eb0ec19d42,
   0x18018a01a1200d40ec19d42,
   0x18018a01a12787e0802d4270180ee19d43,
   0x18018a00912787a0802c0270180ee08943],
  [0x18018a00912788c0800ca2e8318f008942,
   0x18018a01a12788d0800e62e8388f019d42,
   0x60062802449e1e8200b00f208943,
   0x60062806849e1f8200b50f219d43,
   0x18018f40b943,
   0x18018f41a543,
   0x18018f41a943,
   0x18018f41ad43,
   0x18018f41b143,
   0x18018f41b543,
   0x18018f41b943,
   0x18018f61c111,
   0x18018f61c511,
   0x18018f61c911,
   0x18018f61cd11,
   0x18018f61cd11,
   0x18018f61cd11,
   0x18018f61cd11,
   0x18018f61cd11,
   0x18018a0091278940800ce2e8254f008942,
   0x18018a01a1278950800ea2e86f4f019d42,
   0x60062802449e1e8200e90f208943,
   0x18018a0091278940803a42e8274f008942,
   0x18018a01a1278950803ac2e8744f019d42,
   0x18018f60b911,
   0x18018a01a1200eb0f819d43,
   0x60062806849e1f8200eb0f219d43,
   0x18018a01a12787e0802d4270270ee19d43,
   0x18018a00912787a0802c0270270ee08943,
   0x60062802449e270200fc0fa08943,
   0x60062802449e270200e90fa08943,
   0x60062806849e278200eb0fa19d43,
   0x60062806849e278200fe0fa19d43,
   0x18018a01a1200b50f219d43,
   0x6006280684800e62e8388f019d42,
   0x18018a00912788c080348310348f008942,
   0x18018a01a12788d0803503103b8f019d42,
   0x60062802449e230200d20ca218320358fc08942,
   0x60062806849e234200d40ca21c3203c8fc19d42,
   0x6006280684800ea2e86f4f019d42],
  [0x6006280684803ac2e8744f019d42,
   0x18018a01a1200fe0fa19d43,
   0x6006280684803503103b8f019d42,
   0x18018a01a1200d40ca21c3203c8fc19d42,
   0x60062802449e230220318800ca170254f008942,
   0x60062806849e234220388800e61706f4f019d42,
   0x60062802449e250200e90fe08942,
   0x60062806849e254200eb0fe19d42,
   0x18018a01a1220388800e61706f4f019d42,
   0x60062802449e250200e90ca2183203590008942,
   0x60062806849e254200eb0ca21c3203c90019d42,
   0x60062802449e2982011410208942,
   0x60062806849e29c2011610219d42,
   0x60062802449e298200e910208942,
   0x60062806849e29c200eb10219d42,
   0x18018a01a1200eb0ca21c3203c90019d42,
   0x18018a01a12011610219d42,
   0x4f0e801801907198255b803827c080631041d522,
   0x13c3a006006080631081d522,
   0x20a320060062000b4e802523,
   0x13c3a00600641c660956e00e09f10a1d922,
   0x4f0e80180190c1d922,
   0x60061320b107410255b803827c0806310e1dd22,
   0x60061320b107410255b803827c0806310e1e122,
   0x1801907410255b803827c080631101e522,
   0x828c8018018e802523,
   0x828d0018018e803923,
   0x6006200eb0e819d22,
   0x180188002d2e83d91202922,
   0x18018e804522,
   0x18018e804d22,
   0x18018e805522,
   0x18018e805d22,
   0x18018e806522,
   0x18018e806d22,
   0x18018e807522,
   0x18018e807d22,
   0x18018e819d22,
   0x18018e81d922,
   0x18018801ed2e83e9121e922],
  [0x18018e81f122,
   0x18018e81f522,
   0x18018e81f922,
   0x18018e81fd22,
   0x18018e81f922,
   0x18018e820122,
   0x18018e820522,
   0x180188020d2e83f91220922,
   0x18018e821122,
   0x18018e821522,
   0x18018e821922,
   0x18018e821d22,
   0x18018e803122,
   0x18018e822122,
   0x18018e822522,
   0x18018e822922,
   0x1168ac0180191422d52,
   0x18018e823122,
   0x18018e823522,
   0x18018e823922,
   0x18018e823d22,
   0x18018e824122,
   0x18018e824522,
   0x18018e824922,
   0x18018e822122,
   0x18018e824d22,
   0x18018e825122,
   0x18018e825522,
   0x18018e825922,
   0x18018e803522,
   0x18018e825d22,
   0x18018e826122,
   0x18018e826522,
   0x18018e826922,
   0x18018e826d22,
   0x18018e827122,
   0x18018e827522,
   0x18018e827922,
   0x18018e827d22,
   0x18018e828122],
  [0x18018e828522,
   0x18018e828922,
   0x18018e803922,
   0x18018e828d22,
   0x18018e803d22,
   0x4f07801801907110255340381fc0805f1181d523,
   0x13c1e0060060805f11a1d523,
   0x6006200d40ec19d22,
   0x4d9000060061320b1343844c8e013037c4b8de12c3744a8dc12836c498da124364488d8107410255b803827c480d502018c478a451c35822,
   0x4d9000060061320b1343844c8e013037c4b8de12c3744a8dc12836c498da124364488d8107410255b803827c480d502018c478a551c35822,
   0x4d9000060061320b1343844c8e013037c4b8de12c3744a8dc12836c498da124364488d8107410255b803827c480d502018c4788151c35822,
   0x4d9000060061320b1343844c8e013037c4b8de12c3744a8dc12836c498da124364488d8107410255b803827c480d502018c478a651c35822,
   0x4d9000060061320b1343844c8e013037c4b8de12c3744a8dc12836c498da124364488d8107410255b803827c480d502018c478a751c35822,
   0x4d9000060061320b1343844c8e013037c4b8de12c3744a8dc12836c498da124364488d8107410255b803827c480d502018c4788d51c35822,
   0x60061320b13037c4b8de12636841d040956e00e09f02018c4e0a851c35822,
   0x180184c82c4c0df107410255b803827c0806313a2a122,
   0x180184c82c4c8e013037c4b8de12c3744a8dc12836c498da107410255b803827c480d502018c4f0a851c35822,
   0x60061320b1323804c0df12e3784b0dd12a3704a0db126368488d8107410255b803827c480d502018c4f8a851c35822,
   0x180184c82c4c0df12e37841d040956e00e09f02018c500a851c35822,
   0x60061320b1323804c0df12e378498da107410255b803827c480d502018c508a851c35822,
   0x180184c82c4c8e013037c4b8de12836c498da107410255b803827c480d502018c510a851c35822,
   0x60061320b1323804c0df12e3784a8dc12836c498da107410255b803827c480d502018c518a851c35822,
   0x60061320b13037c41d040956e00e09f02018c520a851c35822,
   0x180184c82c4c0df107410255b803827c0806313a2a122,
   0x180184c82c4c0df12e378498da107410255b803827c480d502018c528a851c35822,
   0x180184c82c4c8e013037c4b8de12c3744a8dc12836c498da124364488d8107410255b803827c480d502018c530a851c35822,
   0x4d9000060061320b1343844c8e013037c4b8de12c3744a8dc12836c498da124364488d8107410255b803827c480d502018c478a951c35822,
   0x4d9000060061320b1343844c8e013037c4b8de12c3744a8dc12836c498da124364488d8107410255b803827c480d502018c4789251c35822,
   0x4d9000060061320b1343844c8e013037c4b8de12c3744a8dc12836c498da124364488d8107410255b803827c480d502018c4789751c35822,
   0x4d9000060061320b1343844c8e013037c4b8de12c3744a8dc12836c498da124364488d8107410255b803827c480d502018c4789951c35822,
   0x4d9000060061320b1343844c8e013037c4b8de12c3744a8dc12836c498da124364488d8107410255b803827c480d502018c4789a51c35822,
   0x4d9000060061320b1343844c8e013037c4b8de12c3744a8dc12836c498da124364488d8107410255b803827c480d502018c478aa51c35822,
   0x60062007b4ec1e922,
   0x6006200834ec20922,
   0x60062000b4ec02922,
   0x13c1e00600641c440954d00e07f14e1d923,
   0x4f078018019501d923,
   0x600613269107340255340381fc0805f1521dd23,
   0x60062007b4f81e923,
   0x180195428923],
  [0x600613269107340255340381fc0805f1521e123,
   0x1801907340255340381fc0805f1561e523,
   0x6006200834f820923,
   0x180195428d23,
   0x824dc0180188002d5680955802923,
   0x60062000b4f802923,
   0x4d9000060061320b1343844c8e013037c4b8de12c3744a8dc12836c498da124364488d8107410255b803827c480d502018c570ab51c35822,
   0x2083e0060062000b55e02523,
   0x6006200eb0f819d23,
   0x18018f819d23,
   0x6006200b50f219d23,
   0x18018f81d923,
   0x18018800e62e8388f019d22,
   0x4d8b70060061326913430c4c8c21303044b8c012c2fc4a8be1282f4498bc1242ec488ba107340255340381fc480b602017c580a451c2e023,
   0x18018f81f123,
   0x18018f81f523,
   0x18018f81f923,
   0x18018f81fd23,
   0x18018f81f923,
   0x18018f820123,
   0x4d8b70060061326913430c4c8c21303044b8c012c2fc4a8be1282f4498bc1242ec488ba107340255340381fc480b602017c580a551c2e023,
   0x18018f820523,
   0x4d8b70060061326913430c4c8c21303044b8c012c2fc4a8be1282f4498bc1242ec488ba107340255340381fc480b602017c5808151c2e023,
   0x18018f821123,
   0x18018f821523,
   0x4d8b70060061326913430c4c8c21303044b8c012c2fc4a8be1282f4498bc1242ec488ba107340255340381fc480b602017c580a651c2e023,
   0x18018f821923,
   0x18018f821d23,
   0x18018f822123,
   0x18018f822523,
   0x18018f822923,
   0x116a70018018f222d53,
   0x18018f823123,
   0x4d8b70060061326913430c4c8c21303044b8c012c2fc4a8be1282f4498bc1242ec488ba107340255340381fc480b602017c580a751c2e023,
   0x18018f823523,
   0x4d8b70060061326913430c4c8c21303044b8c012c2fc4a8be1282f4498bc1242ec488ba107340255340381fc480b602017c5808d51c2e023,
   0x6006132691303044b8c01262f041cd00954d00e07f02017c588a851c2e023,
   0x18018f823923,
   0x180184c9a44c0c1107340255340381fc0805f1642a123,
   0x180184c9a44c8c21303044b8c012c2fc4a8be1282f4498bc107340255340381fc480b602017c598a851c2e023],
  [0x6006132691323084c0c112e3004b0bf12a2f84a0bd1262f0488ba107340255340381fc480b602017c5a0a851c2e023,
   0x180184c9a44c0c112e30041cd00954d00e07f02017c5a8a851c2e023,
   0x6006132691323084c0c112e300498bc107340255340381fc480b602017c5b0a851c2e023,
   0x180184c9a44c8c21303044b8c01282f4498bc107340255340381fc480b602017c5b8a851c2e023,
   0x6006132691323084c0c112e3004a8be1282f4498bc107340255340381fc480b602017c5c0a851c2e023,
   0x60061326913030441cd00954d00e07f02017c5c8a851c2e023,
   0x180184c9a44c0c1107340255340381fc0805f1642a123,
   0x180184c9a44c0c112e300498bc107340255340381fc480b602017c5d0a851c2e023,
   0x180184c9a44c8c21303044b8c012c2fc4a8be1282f4498bc1242ec488ba107340255340381fc480b602017c5d8a851c2e023,
   0x18018f823d23,
   0x18018f824123,
   0x18018f824523,
   0x4d8b70060061326913430c4c8c21303044b8c012c2fc4a8be1282f4498bc1242ec488ba107340255340381fc480b602017c580a951c2e023,
   0x18018f824923,
   0x4d8b70060061326913430c4c8c21303044b8c012c2fc4a8be1282f4498bc1242ec488ba107340255340381fc480b602017c5809251c2e023,
   0x18018f822123,
   0x18018f824d23,
   0x18018f825123,
   0x18018f825523,
   0x18018f825923,
   0x18018f825d23,
   0x4d8b70060061326913430c4c8c21303044b8c012c2fc4a8be1282f4498bc1242ec488ba107340255340381fc480b602017c5809751c2e023,
   0x18018f826123,
   0x18018f826523,
   0x4d8b70060061326913430c4c8c21303044b8c012c2fc4a8be1282f4498bc1242ec488ba107340255340381fc480b602017c5809951c2e023,
   0x18018f826923,
   0x4d8b70060061326913430c4c8c21303044b8c012c2fc4a8be1282f4498bc1242ec488ba107340255340381fc480b602017c5809a51c2e023,
   0x18018f826d23,
   0x18018f827123,
   0x18018f827523,
   0x18018f827923,
   0x18018f827d23,
   0x18018f828123,
   0x18018f828523,
   0x4d8b70060061326913430c4c8c21303044b8c012c2fc4a8be1282f4498bc1242ec488ba107340255340381fc480b602017c580aa51c2e023,
   0x18018800ea2e86f4f019d22,
   0x18018803ac2e8744f019d22,
   0x2098c0060065681055804523,
   0x18018f804523,
   0x209930060065681255804d23],
  [0x209940060065681455805523,
   0x209970060065681655805d23,
   0x18018f804d23,
   0x18018f805523,
   0x18018f805d23,
   0x209990060065681855806523,
   0x2099a0060065681a55806d23,
   0x2099b0060065681c55807523,
   0x18018f806523,
   0x18018f806d23,
   0x18018f807523,
   0x2099f0060065681e55807d23,
   0x18018f807d23,
   0x116a70018018fa22d53,
   0x60065e07b4f01e922,
   0x60065e0834f020922,
   0x60065e00b4f002922,
   0x4d9270060061326913442c4c90a1304244b90812c41c4a9061284144990412440c48902107340255340381fc480ff02017c5e8a551c40423,
   0x4d9270060061326913442c4c90a1304244b90812c41c4a9061284144990412440c48902107340255340381fc480ff02017c5e88151c40423,
   0x4d9270060061326913442c4c90a1304244b90812c41c4a9061284144990412440c48902107340255340381fc480ff02017c5e8a651c40423,
   0x4d9270060061326913442c4c90a1304244b90812c41c4a9061284144990412440c48902107340255340381fc480ff02017c5e8a751c40423,
   0x4d9270060061326913442c4c90a1304244b90812c41c4a9061284144990412440c48902107340255340381fc480ff02017c5e88d51c40423,
   0x6006132691304244b90812641041cd00954d00e07f02017c5f0a851c40423,
   0x180184c9a44c109107340255340381fc0805f17e2a123,
   0x180184c9a44c90a1304244b90812c41c4a90612841449904107340255340381fc480ff02017c600a851c40423,
   0x6006132691324284c10912e4204b10712a4184a10512641048902107340255340381fc480ff02017c608a851c40423,
   0x180184c9a44c10912e42041cd00954d00e07f02017c610a851c40423,
   0x6006132691324284c10912e42049904107340255340381fc480ff02017c618a851c40423,
   0x180184c9a44c90a1304244b90812841449904107340255340381fc480ff02017c620a851c40423,
   0x6006132691324284c10912e4204a90612841449904107340255340381fc480ff02017c628a851c40423,
   0x60061326913042441cd00954d00e07f02017c630a851c40423,
   0x180184c9a44c109107340255340381fc0805f17e2a123,
   0x180184c9a44c10912e42049904107340255340381fc480ff02017c638a851c40423,
   0x180184c9a44c90a1304244b90812c41c4a9061284144990412440c48902107340255340381fc480ff02017c640a851c40423,
   0x4d9270060061326913442c4c90a1304244b90812c41c4a9061284144990412440c48902107340255340381fc480ff02017c5e8a951c40423,
   0x4d9270060061326913442c4c90a1304244b90812c41c4a9061284144990412440c48902107340255340381fc480ff02017c5e89251c40423,
   0x4d9270060061326913442c4c90a1304244b90812c41c4a9061284144990412440c48902107340255340381fc480ff02017c5e89751c40423,
   0x4d9270060061326913442c4c90a1304244b90812c41c4a9061284144990412440c48902107340255340381fc480ff02017c5e89951c40423,
   0x4d9270060061326913442c4c90a1304244b90812c41c4a9061284144990412440c48902107340255340381fc480ff02017c5e89a51c40423,
   0x4d9270060061326913442c4c90a1304244b90812c41c4a9061284144990412440c48902107340255340381fc480ff02017c5e8aa51c40423],
  [0x6006200fe0fa19d23,
   0x4d9270060061326913442c4c90a1304244b90812c41c4a9061284144990412440c48902107340255340381fc480ff02017c5e8a451c40423,
   0x1362dc0180184c9a44d0c31323084c0c112e3004b0bf12a2f84a0bd1262f0490bb1222e841cd00954d00e07f1202d82496d02017c170b911c2e023,
   0x180189c2b1080408b619d23,
   0x1362dc0180184c9a44d0c31323084c0c112e3004b0bf12a2f84a0bd1262f0490bb1222e841cd00954d00e07f1202d82497c02017c170b911c2e023,
   0x1362dc0180184c9a44d0c31323084c0c112e3004b0bf12a2f84a0bd1262f0490bb1222e841cd00954d00e07f1202d82497d02017c170b911c2e023,
   0x18018803503103b8f019d22,
   0x4d9000060061320b1343844c8e013037c4b8de12c3744a8dc12836c498da124364488d8107410255b803827c480d502018c2e8ad51c35822,
   0x6006200d40ca21c3203c8fc19d22,
   0x4d8b70060061326913430c4c8c21303044b8c012c2fc4a8be1282f4498bc1242ec488ba107340255340381fc480b60922950805f05e2b91704191c2e023,
   0x180189c2bd080428b621923,
   0x4d8b70060061326913430c4c8c21303044b8c012c2fc4a8be1282f4498bc1242ec488ba107340255340381fc480b609229d0805f05e2b91704391c2e023,
   0x4d8b70060061326913430c4c8c21303044b8c012c2fc4a8be1282f4498bc1242ec488ba107340255340381fc480b609229d0805f05e2c11704491c2e023,
   0x4d9000060061320b1343844c8e013037c4b8de12c3744a8dc12836c498da124364488d8107410255b803827c480d502018c2e8b151c35822,
   0x13649c0180184c9a44d10b1324284c10912e4204b10712a4184a1051264104910312240841cd00954d0650ff0381fc3204582017c648b251c40423,
   0x18019961ed3203e8fc1e922,
   0x180199620d3203f8fc20922,
   0x180199602d3203d8fc02922,
   0x1364000180184c82c4d0e11323804c0df12e3784b0dd12a3704a0db126368490d912236041d040956e00e09f120354239bc02018c170d711c35822,
   0x1364000180184c82c4d0e11323804c0df12e3784b0dd12a3704a0db126368490d912236041d040956e02227203827c480d502018c1706111c35822,
   0x1364000180184c82c4d0e11323804c0df12e3784b0dd12a3704a0db126368490d912236041d040956e0222da03827c480d502018c1706111c35822,
   0x1364000180184c82c4d0e11323804c0df12e3784b0dd12a3704a0db126368490d912236041d040956e00e09f1203540886c02018c170d711c35822,
   0x4d9000060061320b1343844c8e013037c4b8de12c3744a8dc12836c498da124364488d8107410255b803827c480d502018c240b351c35822,
   0x1364000180184c82c4d0e11323804c0df12e3784b0dd12a3704a0db126368490d912236041d040956e00e09f1203540806305f264170d711c35822,
   0x1364000180184c82c4d0e11323804c0df12e3784b0dd12a3704a0db126368490d912236041d040956e00e09f12035423a9d02018c1706111c35822,
   0x4d8b70060061326913430c4c8c21303044b8c012c2fc4a8be1282f4498bc1242ec488ba107340255340381fc480b602017c660ab51c2e023,
   0x1364000180184c82c4d0e11323804c0df12e3784b0dd12a3704a0db126368490d912236041d040956e0221c103827c480d502018c170d711c35822,
   0x1364000180184c82c4d0e11323804c0df12e3784b0dd12a3704a0db126368490d912236041d040956e00e09f1203540806305f138170d711c35822,
   0x4d8b70060061326913430c4c8c21303044b8c012c2fc4a8be1282f4498bc1242ec488ba107340255340381fc480b602017c660b251c2e023,
   0x1364000180184c82c4d0e11323804c0df12e3784b0dd12a3704a0db126368490d912236041d040956e00e09f1203540887102018c170d711c35822,
   0x1364000180184c82c4d0e11323804c0df12e3784b0dd12a3704a0db126368490d912236041d040956e0221c203827c480d502018c170d711c35822,
   0x1364000180184c82c4d0e11323804c0df12e3784b0dd12a3704a0db126368490d912236041d040956e00e09f09c028480d502018c170d711c35822,
   0x1364000180184c82c4d0e11323804c0df12e3784b0dd12a3704a0db126368490d912236041d040956e00e09f120354239c302018c170d711c35822,
   0x1364000180184c82c4d0e11323804c0df12e3784b0dd12a3704a0db126368490d912236041d040956e00e09f120354239c402018c170d711c35822,
   0x1364000180184c82c4d0e11323804c0df12e3784b0dd12a3704a0db126368490d912236041d040956e00e09f1203542382002018c170d711c35822,
   0x1364000180184c82c4d0e11323804c0df12e3784b0dd12a3704a0db126368490d912236041d040956e00e09f1203540887302018c170d711c35822,
   0x1364000180184c82c4d0e11323804c0df12e3784b0dd12a3704a0db126368490d912236041d040956e00e09f120354239c502018c170d711c35822,
   0x1364000180184c82c4d0e11323804c0df12e3784b0dd12a3704a0db126368490d912236041d040956e00e09f1203542382302018c170d711c35822,
   0x1364000180184c82c4d0e11323804c0df12e3784b0dd12a3704a0db126368490d912236041d040956e00e09f1203542382402018c170d711c35822,
   0x1364000180184c82c4d0e11323804c0df12e3784b0dd12a3704a0db126368490d912236041d040956e00e09f120354239c602018c170d711c35822],
  [0x1364000180184c82c4d0e11323804c0df12e3784b0dd12a3704a0db126368490d912236041d040956e00e09f120354239c802018c170d711c35822,
   0x1364000180184c82c4d0e11323804c0df12e3784b0dd12a3704a0db126368490d912236041d040956e00e09f120354239ca02018c170d711c35822,
   0x1364000180184c82c4d0e11323804c0df12e3784b0dd12a3704a0db126368490d912236041d040956e00e09f1203542382602018c170d711c35822,
   0x6006220388800e61706f4f019d22,
   0x18018880fa6687b4f01e922,
   0x18018880fe668834f020922,
   0x18018880f66680b4f002922,
   0x1364000180184c82c4d0e11323804c0df12e3784b0dd12a3704a0db126368490d912236041d040956e00e09f120354239d002018c170d711c35822,
   0x1364000180184c82c4d0e11323804c0df12e3784b0dd12a3704a0db126368490d912236041d040956e02221203827c480d502018c1706111c35822,
   0x1364000180184c82c4d0e11323804c0df12e3784b0dd12a3704a0db126368490d912236041d040956e00e09f12035423a2c02018c1706111c35822,
   0x1364000180184c82c4d0e11323804c0df12e3784b0dd12a3704a0db126368490d912236041d040956e0221aa03827c480d502018c170d711c35822,
   0x1364000180184c82c4d0e11323804c0df12e3784b0dd12a3704a0db126368490d912236041d040956e00e09f1203540806305f160170d711c35822,
   0x1364000180184c82c4d0e11323804c0df12e3784b0dd12a3704a0db126368490d912236041d040956e0221ab03827c480d502018c170d711c35822,
   0x4d90f0060061320b1343dc4c8f61303d44b8f412c3cc4a8f21283c4498f01243bc488ee107410255b803827c480ec02018c670a551c3b422,
   0x4d90f0060061320b1343dc4c8f61303d44b8f412c3cc4a8f21283c4498f01243bc488ee107410255b803827c480ec02018c6708151c3b422,
   0x4d90f0060061320b1343dc4c8f61303d44b8f412c3cc4a8f21283c4498f01243bc488ee107410255b803827c480ec02018c670a651c3b422,
   0x4d90f0060061320b1343dc4c8f61303d44b8f412c3cc4a8f21283c4498f01243bc488ee107410255b803827c480ec02018c670a751c3b422,
   0x4d90f0060061320b1343dc4c8f61303d44b8f412c3cc4a8f21283c4498f01243bc488ee107410255b803827c480ec02018c6708d51c3b422,
   0x60061320b1303d44b8f41263c041d040956e00e09f02018c678a851c3b422,
   0x180184c82c4c0f5107410255b803827c080631a02a122,
   0x180184c82c4c8f61303d44b8f412c3cc4a8f21283c4498f0107410255b803827c480ec02018c688a851c3b422,
   0x60061320b1323d84c0f512e3d04b0f312a3c84a0f11263c0488ee107410255b803827c480ec02018c690a851c3b422,
   0x180184c82c4c0f512e3d041d040956e00e09f02018c698a851c3b422,
   0x60061320b1323d84c0f512e3d0498f0107410255b803827c480ec02018c6a0a851c3b422,
   0x180184c82c4c8f61303d44b8f41283c4498f0107410255b803827c480ec02018c6a8a851c3b422,
   0x60061320b1323d84c0f512e3d04a8f21283c4498f0107410255b803827c480ec02018c6b0a851c3b422,
   0x60061320b1303d441d040956e00e09f02018c6b8a851c3b422,
   0x180184c82c4c0f5107410255b803827c080631a02a122,
   0x180184c82c4c0f512e3d0498f0107410255b803827c480ec02018c6c0a851c3b422,
   0x180184c82c4c8f61303d44b8f412c3cc4a8f21283c4498f01243bc488ee107410255b803827c480ec02018c6c8a851c3b422,
   0x4d90f0060061320b1343dc4c8f61303d44b8f412c3cc4a8f21283c4498f01243bc488ee107410255b803827c480ec02018c670a951c3b422,
   0x4d90f0060061320b1343dc4c8f61303d44b8f412c3cc4a8f21283c4498f01243bc488ee107410255b803827c480ec02018c6709251c3b422,
   0x4d90f0060061320b1343dc4c8f61303d44b8f412c3cc4a8f21283c4498f01243bc488ee107410255b803827c480ec02018c6709751c3b422,
   0x4d90f0060061320b1343dc4c8f61303d44b8f412c3cc4a8f21283c4498f01243bc488ee107410255b803827c480ec02018c6709951c3b422,
   0x4d90f0060061320b1343dc4c8f61303d44b8f412c3cc4a8f21283c4498f01243bc488ee107410255b803827c480ec02018c6709a51c3b422,
   0x4d90f0060061320b1343dc4c8f61303d44b8f412c3cc4a8f21283c4498f01243bc488ee107410255b803827c480ec02018c670aa51c3b422,
   0x1364000180184c82c4d0e11323804c0df12e3784b0dd12a3704a0db126368490d912236041d040956e00e09f120354239ac02018c170d711c35822,
   0x1364000180184c82c4d0e11323804c0df12e3784b0dd12a3704a0db126368490d912236041d040956e00e09f12035423bcf02018c1706111c35822,
   0x1364000180184c82c4d0e11323804c0df12e3784b0dd12a3704a0db126368490d912236041d040956e00e09f1203542395e02018c170d711c35822,
   0x1364000180184c82c4d0e11323804c0df12e3784b0dd12a3704a0db126368490d912236041d040956e00e09f1203542382f02018c170d711c35822],
  [0x1364000180184c82c4d0e11323804c0df12e3784b0dd12a3704a0db126368490d912236041d040956e00e09f1203542383202018c170d711c35822,
   0x1364000180184c82c4d0e11323804c0df12e3784b0dd12a3704a0db126368490d912236041d040956e00e09f1203542383302018c170d711c35822,
   0x1364000180184c82c4d0e11323804c0df12e3784b0dd12a3704a0db126368490d912236041d040956e00e09f1203542383502018c170d711c35822,
   0x4d90f0060061320b1343dc4c8f61303d44b8f412c3cc4a8f21283c4498f01243bc488ee107410255b803827c480ec02018c670a451c3b422,
   0x1364000180184c82c4d0e11323804c0df12e3784b0dd12a3704a0db126368490d912236041d040956e00e09f1203540887502018c170d711c35822,
   0x1364000180184c82c4d0e11323804c0df12e3784b0dd12a3704a0db126368490d912236041d040956e00e09f1203540887702018c170d711c35822,
   0x1364000180184c82c4d0e11323804c0df12e3784b0dd12a3704a0db126368490d912236041d040956e00e09f1203540886e02018c170d711c35822,
   0x1ab71068eec19b660573042a4c6006006180b1042d940fcb503d2d00e05805e7f01735600ed7c16bd31b503411,
   0x4d8b70060061326913430c4c8c21303044b8c012c2fc4a8be1282f4498bc1242ec488ba107340255340381fc480b60926040805f11c2e023,
   0x4d9000060061320b1343844c8e013037c4b8de12c3744a8dc12836c498da124364488d8107410255b803827c480d502018c6d8b451c35822,
   0x1362dc209950060061326913430c4c8c21303044b8c012c2fc4a8be1282f4498bc1242ec488ba107340255340381fc480b60226580805f11c2e023,
   0x4d9000060061320b1343844c8e013037c4b8de12c3744a8dc12836c498da124364488d8107410255b803827c480d502018c6d8ae51c35822,
   0x4d9000060061320b1343844c8e013037c4b8de12c3744a8dc12836c498da124364488d8107410255b803827c480d502018c6d8b051c35822,
   0x1168ac0180190222d52,
   0x1ab73068eec19b680573042a4c6006006180b1042d9c0fcb503d2d00e05805e9741735600ed7c16bd31b506011,
   0x1ab74068eec19b6a0573042a4c6006006180b1042da40fcb503d2d00e05805e9481735600ed7c16bd31b506811,
   0x1ab75068eec19b6c0573042a4c6006006180b1042dac0fcb503d2d00e05805eae01735600ed7c16bd31b506c11,
   0x1ab76068eec19b6e0573042a4c6006006180b1042db40fcb503d2d00e05805eb841735600ed7c16bd31b507011,
   0x1ab77068eec19b700573042a4c6006006180b1042dbc0fcb503d2d00e05805ebf81735600ed7c16bd31b507411,
   0x6006200eb0ca21c3203c90019d22,
   0x4d9260060061320b1344884c9211304804b91f12c4784a91d1284704991b12446848919107410255b803827c6e0a552045c0806311c46022,
   0x4d9260060061320b1344884c9211304804b91f12c4784a91d1284704991b12446848919107410255b803827c6e08152045c0806311c46022,
   0x4d9260060061320b1344884c9211304804b91f12c4784a91d1284704991b12446848919107410255b803827c6e0a652045c0806311c46022,
   0x4d9260060061320b1344884c9211304804b91f12c4784a91d1284704991b12446848919107410255b803827c6e0a752045c0806311c46022,
   0x4d9260060061320b1344884c9211304804b91f12c4784a91d1284704991b12446848919107410255b803827c6e08d52045c0806311c46022,
   0x60061320b1304804b91f12646c41d040956e00e09f1ba2a10806311c46022,
   0x180184c82c4c120107410255b803827c080631bc2a122,
   0x180184c82c4c9211304804b91f12c4784a91d1284704991b107410255b803827c6f8a852045c0806311c46022,
   0x60061320b1324844c12012e47c4b11e12a4744a11c12646c48919107410255b803827c700a852045c0806311c46022,
   0x180184c82c4c12012e47c41d040956e00e09f1c22a10806311c46022,
   0x60061320b1324844c12012e47c4991b107410255b803827c710a852045c0806311c46022,
   0x180184c82c4c9211304804b91f1284704991b107410255b803827c718a852045c0806311c46022,
   0x60061320b1324844c12012e47c4a91d1284704991b107410255b803827c720a852045c0806311c46022,
   0x60061320b13048041d040956e00e09f1ca2a10806311c46022,
   0x180184c82c4c120107410255b803827c080631bc2a122,
   0x180184c82c4c12012e47c4991b107410255b803827c730a852045c0806311c46022,
   0x180184c82c4c9211304804b91f12c4784a91d1284704991b12446848919107410255b803827c738a852045c0806311c46022,
   0x4d9260060061320b1344884c9211304804b91f12c4784a91d1284704991b12446848919107410255b803827c6e0a952045c0806311c46022,
   0x4d9260060061320b1344884c9211304804b91f12c4784a91d1284704991b12446848919107410255b803827c6e09252045c0806311c46022,
   0x4d9260060061320b1344884c9211304804b91f12c4784a91d1284704991b12446848919107410255b803827c6e09752045c0806311c46022],
  [0x4d9260060061320b1344884c9211304804b91f12c4784a91d1284704991b12446848919107410255b803827c6e09952045c0806311c46022,
   0x4d9260060061320b1344884c9211304804b91f12c4784a91d1284704991b12446848919107410255b803827c6e09a52045c0806311c46022,
   0x4d9260060061320b1344884c9211304804b91f12c4784a91d1284704991b12446848919107410255b803827c6e0aa52045c0806311c46022,
   0x60062011610219d22,
   0x4d9260060061320b1344884c9211304804b91f12c4784a91d1284704991b12446848919107410255b803827c6e0a452045c0806311c46022,
   0x4d90f0060061320b1343dc4c8f61303d44b8f412c3cc4a8f21283c4498f01243bc488ee107410255b803827c480ec02018c038b551c3b422,
   0x4d90f0060061320b1343dc4c8f61303d44b8f412c3cc4a8f21283c4498f01243bc488ee107410255b803827c270ce1203b00806311c3b422,
   0x4d9000060061320b1343844c8e013037c4b8de12c3744a8dc12836c498da124364488d8107410255b80895d40e09f1203540806311c35822,
   0x1364980180184c82c4d1221324844c12012e47c4b11e12a4744a11c12646c4911a12246441d040956e06511703827c328b24c811a0806311c46022,
   0x4d90f0060061320b1343dc4c8f61303d44b8f412c3cc4a8f21283c4498f01243bc488ee107410255b803827c270e41203b00806311c3b422,
   0x4d9000060061320b1343844c8e013037c4b8de12c3744a8dc12836c498da124364488d8107410255b80892940e09f1203540806311c35822,
   0x4d90f0060061320b1343dc4c8f61303d44b8f412c3cc4a8f21283c4498f01243bc488ee107410255b803827c270f91203b00806311c3b422,
   0x4d90f0060061320b1343dc4c8f61303d44b8f412c3cc4a8f21283c4498f01243bc488ee107410255b803827c2710e1203b00806311c3b422,
   0x4d90f0060061320b1343dc4c8f61303d44b8f412c3cc4a8f21283c4498f01243bc488ee107410255b803827c271241203b00806311c3b422,
   0x6adf41a3bb066de815cc10a9318018018602c410b7903f2d40f4b40381606d84780ed7c16bd31b511c11,
   0x13643c0180184c82c4d0f71323d84c0f512e3d04b0f312a3c84a0f11263c0490ef1223b841cd00954d00e07f1203b00805f11c3b422,
   0x13643c0180184c82c4d0f71323d84c0f512e3d04b0f312a3c84a0f11263c0490ef1223b841d040956e00e09f1203b00806311c3b422,
   0x6ae101a3bb066df015cc10a93b80180186032c10b7b03f2d40f4b403831817d8b05cd7016bd31b513c11,
   0x2a5f7006006180b203f2d40f4b403816017c2105cd9003b5f0ad12011,
   0x1ab89068eec19b720573042a42500600610b7f03f29c0f4a603843408b5d05e0f016bd31b528411,
   0x1ab8a068eec19b820573042a4ee006006180cb042e040fcb503d2d00e0c61b62d916bd31b525811,
   0x1ab89068eec19b720573042a42500600610b7f03f29c0f4a603843408b5e05e0f416bd31b528411,
   0x1a85386814a198518561422a04f8060061084e83e1360f04c83812e0884a85e2e1168499b412211,
   0x2a5f7006006180b203f2d40f4b403816017ca205cd9003b5f0ad1a011,
   0x1ab89068eec19b720573042a42500600610b7f03f29c0f4a603843408b6105e85016bd31b528411,
   0x1ab89068eec19b720573042a42500600610b7f03f29c0f4a603843408b5e05e89416bd31b528411,
   0x1ab89068eec19b720573042a42500600610b7f03f29c0f4a603843408b6305e56c16bd31b528411,
   0x1ab89068eec19b720573042a42500600610b7f03f29c0f4a603843408b5e05e57016bd31b528411,
   0xa97dc018018602c80fcb503d2d00e0581b62dd03b5f0ad25411,
   0x1abbe0a94e40180183f2d40f4b4038318200cc1d208d17a0f05cd5816bd41d17c411,
   0x6aef82a53900600610baf03f2d40f4b4038318200cc1d208d17a0f05cd5816bd40ab7c411,
   0x1abbe0a94e40180183f2d40f4b4038318200cc1d208d17a5a05cd5816bd41d17c411,
   0x6aef82a53900600610baf03f2d40f4b4038318200cc1d208d17a5a05cd5816bd40ab7c411,
   0x1abbe0a94e40180183f2d40f4b4038318200cc1d208d17a5105cd5816bd41d17c411,
   0x6aef82a53900600610baf03f2d40f4b4038318200cc1d208d17a5105cd5816bd40ab7c411,
   0x1abbe0a94e40180183f2d40f4b4038318200cc1d208d17ab705cd5816bd41d17c411,
   0x6aef82a53900600610baf03f2d40f4b4038318200cc1d208d17ab705cd5816bd40ab7c411,
   0x1abbe0a94e40180183f2d40f4b4038318200cc1d208d17ae005cd5816bd41d17c411,
   0x6aef82a53900600610baf03f2d40f4b4038318200cc1d208d17ae005cd5816bd40ab7c411,
   0x1abbe0a94e40180183f2d40f4b4038318200cc1d208d17afd05cd5816bd41d17c411],
  [0x6aef82a53900600610baf03f2d40f4b4038318200cc1d208d17afd05cd5816bd40ab7c411,
   0x2a5390060060fcb503d2d00e0c60803307482345e83c173560ad7c411,
   0x2085486ae2c2a42f00600610b8503f29c0f4a60384347502340e04016bd40ab28414,
   0x2a5390060060fcb503d2d00e0c60803307482345e968173560ad7c411,
   0x2a5390060060fcb503d2d00e0c60803307482345e944173560ad7c411,
   0x2a5390060060fcb503d2d00e0c60803307482345eadc173560ad7c411,
   0x2a5390060060fcb503d2d00e0c60803307482345eb80173560ad7c411,
   0x2a5390060060fcb503d2d00e0c60803307482345ebf4173560ad7c411,
   0x1daf04763c0068efc19bb20573042a53f00600610bb10411180fcb503d2d00e0c605af54033b01d77c411,
   0x6aef82a5390060060fcb503d2d00e0c6080330748235b615616bd41d17c411,
   0x1abbe0a94e401801842ebc0fcb503d2d00e0c6080330748235b615616bd40ab7c411,
   0x6aef82a5390060060fcb503d2d00e0c61d208d17da805cd7016bd41d17c411,
   0x1abbe0a94e401801842ebc0fcb503d2d00e0c61d208d17da805cd7016bd40ab7c411,
   0xa94e40180183f2d40f4b4038318200cc1d208d6d8558ad7c411,
   0x1daf04763c0068efc19bb20573042a53f00600610bb103f2d40f4b403831816bd51b57c411,
   0x6aef82a5390060060fcb503d2d00e0c61dc08d16bd41d17c414,
   0x1dae347638c068efc19b830573042a43000600610b8603f29c0f4a603843416bd51b528411,
   0x1abbe0a94e40180183f2d40f4b4038318748235b62e516bd41d17c411,
   0x6aef82a53900600610baf03f2d40f4b4038318748235b62e516bd40ab7c411,
   0x1dae3c7638e0a90c801801842e1c0fca703d2980e10d1dc08d16bd80ab28414,
   0xa94e40180183f2d40f4b40383187482345f6a01735c0ad7c411,
   0x6af0c2a5570060060fcb503d2d00e0c61dc08d16bd61d17c414,
   0x76bc51d8f102a55a0060060fcb503d2d00e0c61dc08d16bd71d17c414,
   0x76bcb1d8f282a57e0060060fcb503d2d00e0c61dc08d16bda1d17c414,
   0x18018957ec080641de2ed21,
   0xa94e40180183f2d40f4b4038318770234ad7c414,
   0x2a5390060060fcb503d2d00e0c61d208d6d8b94ad7c411,
   0xa955c0180183f2d40f4b4038318770234ad7c414,
   0xa95740180183f2d40f4b4038318770234ad7c414,
   0xa95780180183f2d40f4b4038318770234ad7c414,
   0xa95fc0180183f2d40f4b4038318770234ad7c414,
   0xa96000180183f2d40f4b4038318770234ad7c414,
   0x5615a018019e02f111,
   0x18019e22f511,
   0x18019e42f921,
   0x18019e22fd11,
   0x18019e22fd11,
   0x18019e230111,
   0x18019e230111,
   0x18019e230111],
  [0x18019e230111,
   0x18019e230111,
   0x18019e230111,
   0x18019e230111,
   0x18019e230511,
   0x18019e230511,
   0x18019e230511,
   0x18019e230511,
   0x18019e230511,
   0x18019e230511,
   0x18019e230511,
   0x18019e230511,
   0x18019e230511,
   0x18019e230511,
   0x18019e230511,
   0x18019e230511,
   0x18019e230911,
   0x18019e230911,
   0x18019e230911,
   0x18019e230911,
   0x18019e230911,
   0x18019e230911,
   0x2a5570060062788103f2d40f4b4038318080234ad7c411,
   0x6af0c2a5570060060fcb503d2d00e0c602008d16bd61d17c411,
   0x573040180184549810de20417840802349b0200540709614811,
   0x76bc51d8f102a55a0060060fcb503d2d00e0c602008d16bd71d17c411,
   0x1daf1c763c60a956c01801842ed40fcb503d2d00e0c602008d16bd80ab7c411,
   0x18019e630d11,
   0x6006088579e830d11,
   0x76bcb1d8f282a57e0060060fcb503d2d00e0c602008d16bda1d17c411,
   0x76bcd1d8f302a5830060060fcb503d2d00e0c602008d16bdb1d17c411,
   0x18019e631111,
   0x18019e631511,
   0x18019e631911,
   0x18019de31d11,
   0x6aef82a53900600610baf03f2d40f4b403831816bd40ab7c411,
   0x18019de2ed11,
   0x15cc100600611526043788105e109b0200540709614811,
   0xa955c0180183f2d40f4b4038318080234ad7c411,
   0x76bc91d8f202a55c00600610bb603f2d40f4b403831816bd90ab7c411],
  [0xa95740180183f2d40f4b4038318080234ad7c411,
   0xa95780180183f2d40f4b4038318080234ad7c411,
   0x18019de32111,
   0xa95dc0180183f2d40f4b4038318080234ad7c411,
   0xa95e80180183f2d40f4b4038318080234ad7c411,
   0xa95ec0180183f2d40f4b4038318080234ad7c411,
   0xa95fc0180183f2d40f4b4038318080234ad7c411,
   0xa96000180183f2d40f4b4038318080234ad7c411,
   0xa96100180183f2d40f4b4038318080234ad7c411,
   0xa96140180183f2d40f4b4038318080234ad7c411,
   0xa96700180183f2d40f4b4038318080234ad7c411,
   0xa96740180183f2d40f4b4038318080234ad7c411,
   0xa968c0180183f2d40f4b4038318080234ad7c411,
   0xa96900180183f2d40f4b4038318080234ad7c411,
   0x18019de23911,
   0x18019de27511,
   0x18019de28511,
   0x15cc100600611526043788105e109b0200540709615011,
   0x18018a031041,
   0x2a5390060060fcb503d2d00e0c60ad7c411,
   0x2a5570060060fcb503d2d00e0c60ad7c411,
   0x2a5590060060fcb503d2d00e0c60ad7c411,
   0x2a5770060060fcb503d2d00e0c60ad7c411,
   0x2a5790060060fcb503d2d00e0c60ad7c411,
   0x2a57d0060060fcb503d2d00e0c60ad7c411,
   0x2a5820060060fcb503d2d00e0c60ad7c411,
   0x2a59b0060060fcb503d2d00e0c60ad7c411,
   0x2a5a20060060fcb503d2d00e0c60ad7c411,
   0x18018a038841,
   0x18018a03e041,
   0x18018a043041,
   0x18018a048c41,
   0x180183f29c0f4a60957947a8c940efdc16de40094a021,
   0x60067bc4503b1c47b3e300e19465,
   0x60067d2730957e47cc4a09d51c038691f103c61,
   0x60067bc4503b1c47b3ef00e19465,
   0x60067bc6703b1c47b3e600e19465,
   0x60067d2130957e47cc4a09d51c038691f103c61,
   0x60067bc6703b1c47b3ef00e19465,
   0x60067bc6a03b1c47b3e900e19465],
  [0x60067d45a0957e47cc4a09d51c038691f103c61,
   0x60067bc6a03b1c47b3ef00e19465,
   0x60067bc6b03b1c47b3ec00e19465,
   0x60067d4600957e47cc4a09d51c038691f103c61,
   0x60067bc6b03b1c47b3ef00e19465,
   0x18019f49cc7cc4a09d51c038691f103c61,
   0x18019f49cc255f91f3128038691f103c61,
   0x60067b8ca43a16a7b05980e16265,
   0x18019f484c7cc4a09d51c038691f103c61,
   0x18019f484c255f91f3128038691f103c61,
   0x18019f51687cc4a09d51c038691f103c61,
   0x18019f5168255f91f3128038691f103c61,
   0x18019f51807cc4a09d51c038691f103c61,
   0x18019f5180255f91f3128038691f103c61,
   0x180183f2d40f4b405f348175ee1f735011,
   0x60060fcb503d2d017df505d7d025df600936c11,
   0x60067d2731f3128038691f103c61,
   0x60067d2931f3134038691f103c61,
   0x60060fc9c03d26c0ec7200e1a411,
   0x60060fc9c03d26c0ec7200e1a411,
   0x18019f832d0385c9f016e61,
   0x60067d2131f3128038691f103c61,
   0x60067d2241f3134038691f103c61,
   0x60067d45a1f3128038691f103c61,
   0x60067d45d1f3134038691f103c61,
   0x60067d4601f3128038691f103c61,
   0x60067d4631f3134038691f103c61,
   0x60060fcb503d2d017cf61f735011,
   0x180183f2d40f4b405f82025df600936c11,
   0x60060fcb503d2d017cfa1f735011,
   0x180183f2d40f4b405f83c25df600936c11,
   0x180183815403b5a0090fc11,
   0x180183815403b5a0090fc11,
   0x18019fa33111,
   0x180183815403b5a0090fc11,
   0x180183815403b5a00904811,
   0x180183815403b5a00904c11,
   0x6006200cc1d208d17a0f05cd5811,
   0x18019fa33511,
   0x1801880fe8275471fc33961],
  [0x18019fa33d11,
   0x18019fa34111,
   0x18018803987f88819834514,
   0x82176018018803247f88820034514,
   0x18019fa34911,
   0x180183f2d40f4b41f735011,
   0x60060fcb503d2d025df600936c11,
   0x6006808d345c35c11,
   0x6006200cc1d208d17a5a05cd5811,
   0x6006808ab45c17a11,
   0x6006200cc1d208d17a5105cd5811,
   0x6006200cc1d208d17ab705cd5811,
   0x6006200cc1d208d17ae005cd5811,
   0x6006200cc1d208d17afd05cd5811,
   0x8187d04e99c01801a0507c76,
   0x8187d04e9e001801a0509876,
   0x180183f2d40f4b41f77fc11,
   0x1801a0802d14,
   0x1801a081ed14,
   0x1801a0a2141798809781411,
   0x6006203fb1fc35161,
   0x1801880324248d542017814,
   0x8186084e35901801a0417e76,
   0x180183f2d40f4b41f75c011,
   0x1801a0820d14,
   0x1801a0a2141799109781411,
   0x180183816403b5f00926811,
   0x180183815403b5a0093e411,
   0x180183816403b5f00983811,
   0x1801a0c35d61,
   0x1801a0e36161,
   0x1801880324248d942017814,
   0x1801880324248d942017814,
   0x1801a0a18a178da49618611,
   0x1801880324248db42017814,
   0x1801a0833114,
   0x1801a0833514,
   0x1801a0833d14,
   0x1801a0834114,
   0x1801a0834914],
  [0x1801a1028911,
   0x1801a1028d11,
   0x8187d04e82401801a050ec76,
   0x8187d04e86401801a0509876,
   0x1801a12fb47cc43008f8861,
   0x1801a142d003b5b00920c11,
   0x15cc10060061044600cef411,
   0x6006200c919834514,
   0x1801a142d003b6000923411,
   0x6006200398ba1bd11,
   0x18019781bd11,
   0x1801a1637165,
   0x52700018018382100805f0086fc11,
   0x1801a1353c7ca8a0093a861,
   0x1801a142d003b5b00924c11,
   0x1801880330748235b615611,
   0x6006200cc09c08d17c2805cd9011,
   0x1801a142d003b6000926011,
   0x1801a1637565,
   0x18019fc37961,
   0x1801a1637d65,
   0x1801a1638165,
   0x1801a1638565,
   0x18019d208d17da805cd7011,
   0x18018ca2283208919838914,
   0x18019fc38d61,
   0x18019fc39161,
   0x18019fc39561,
   0x18019fc39961,
   0x1801a1828914,
   0x1801a1828d14,
   0x18019fc37d61,
   0x18019fc38561,
   0x1801a1620165,
   0x1801a1621d65,
   0x1801a1624165,
   0x1801a1624565,
   0x1801a1625965,
   0x1801a1627965,
   0x18019fc20161],
  [0x18019fc21d61,
   0x18019fc24161,
   0x18019fc24561,
   0x18019fc25961,
   0x18019fc27961,
   0x1801a142d003b5b0092b411,
   0x526a401801838290080630086a011,
   0x1801a136f87ca1d00943461,
   0x6006200cc09c08d17ca405cd9011,
   0x1801a142d003b5b0092bc11,
   0x1801a137307cc5b00945461,
   0x1801a137387cc6100945c61,
   0x1801a12fc07cc43008f9461,
   0x1801a142d003b5b0092b011,
   0x60062003a8ba1bd11,
   0x1801a142d003b5b0092b811,
   0x6006200eb0ba1d111,
   0x1801a12fc87cc43008fa061,
   0x1801a12fd07cc43008fac61,
   0x15cc10060061046f00cf4411,
   0x600686c8103c95c87,
   0x60068748203e95c97,
   0x180182017816ccf0094c811,
   0x18019074d42553402017c21,
   0x60062497021f34414,
   0x57304018018417c011,
   0x60062497101350014,
   0x60062497305d02814,
   0x60062497405d02814,
   0x180182017816cdf00950811,
   0x180188032823d4305c18011,
   0x573040180184112411,
   0x1801889038200ca05c17011,
   0x600686c9003c96c87,
   0x60068749103e96c97,
   0x6006850b400ed6c11,
   0x180182017816ce700952811,
   0x6006248d345c2e414,
   0x573040180184111811,
   0x6006850b400ed8811],
  [0x6006200d40c41d111,
   0x600603bf705b79011,
   0x209820060060898301350014,
   0x60062498505d02814,
   0x60062498605d02814,
   0x6006850b400ed8011,
   0x180182017816cf200958c11,
   0x6006880b345c18e11,
   0x60068686483c39d87,
   0x60068706583e3a197,
   0x6006248ab45c19a14,
   0x6006850b400ed6c11,
   0x6006850b400ed8811,
   0x1801880330270235b62e911,
   0x6006748235b62e511,
   0x6006248e945c19e14,
   0x6006850b400ed8011,
   0x1801a223a976,
   0x6006200e31fe22011,
   0x60060f453225274a1,
   0x60060fc53227278b1,
   0x60060f45422527ca1,
   0x60060fc54227280b1,
   0x60060f0eb6241a2a1,
   0x60060f8ec6261a6b1,
   0x18019dc08d14,
   0x1801a2802d11,
   0x1801a281ed11,
   0x1801a2820d11,
   0x18019dc2bd14,
   0x600686caa03d15487,
   0x6006874ab03f15497,
   0x18019076e4255b802018c21,
   0x18018890d0200ca05c17011,
   0x600686c9003d15887,
   0x60068749103f15897,
   0x6006850b400ed6c11,
   0x6006850b400ed6c11,
   0x6006850b400ed6c11,
   0x6006850b400ed6c11],
  [0x600686cb203c8c487,
   0x6006874b303e8c497,
   0x600686c9003c8cc87,
   0x60068749103e8cc97,
   0x600686cb603d0e087,
   0x6006874b703f0e097,
   0x600686c9003d0e487,
   0x60068749103f0e497,
   0x180182017816d1b00975411,
   0x57304018018411a411,
   0x57304018018411bc11,
   0x180182017816d1c00976011,
   0x180182017816d1d00975011,
   0x180182017816d1e00975811,
   0x60060952b02015811,
   0x6006249690094b414,
   0x60062496a0094b814,
   0x1801808e2011,
   0x600687cd122b08011,
   0x6006320b61d22b111,
   0x600617c0905cd9011,
   0x600617a6f05cd7011,
   0x60062706602017811,
   0x600617a6f05cd7011,
   0x600617c0905cd9011,
   0x60062561a1ea32521,
   0x600623d4305c18011,
   0x60062240e05c17011,
   0x60062227205c18411,
   0x60062227205c18411,
   0x60062240e05c17011,
   0x60060805e00953011,
   0x149c00060060e0840086fc11,
   0x60060fca703d29811,
   0x1801a2c3b514,
   0x600617cec05d00c11,
   0x60066d8ee62b09c11,
   0x600617a9005cd7011,
   0x600617c1005cd9011,
   0x600617c1105cd9011],
  [0x600617a9105cd7011,
   0x6006178ef45c1aa11,
   0x6006178f045c1ae11,
   0x60066d8f262a3c511,
   0x600617e0205d01011,
   0x180199838914,
   0x6006200d41fe21c11,
   0x60060805e00959011,
   0x600623d6605c18811,
   0x60060842c00e04011,
   0x18018902cd11,
   0x6006200ca08c3cd11,
   0x60062229205c18411,
   0x60062241405c17011,
   0x6006220f345c1b211,
   0x60060805e0095a811,
   0x600623a9d05c18411,
   0x600623a9d05c18411,
   0x18018957e47ca9e09d51c31,
   0x1801a2e3d114,
   0x1801a2c3d514,
   0x600617cf605d01411,
   0x6006270cf02017811,
   0x6006200ca1b63d911,
   0x600617e0805d01811,
   0x18019983a514,
   0x60060805e00963411,
   0x6006200ca2303dd11,
   0x6006238f745c1b611,
   0x600623aa105c18411,
   0x1801a2c3e114,
   0x6006178f945c1ba11,
   0x6006178fa45c1be11,
   0x83630018019fe22014,
   0x1801a2c3ed14,
   0x600617c3305cd9011,
   0x600617a1005cd7011,
   0x600617a1005cd7011,
   0x600617c3305cd9011,
   0x6006255e51ea32521],
  [0x60062243405c17011,
   0x60062221205c18411,
   0x60062221205c18411,
   0x60062243405c17011,
   0x149a90060060e0a40086a011,
   0x600617a2105cd7011,
   0x600617c3505cd9011,
   0x600617c3605cd9011,
   0x600617a2205cd7011,
   0x60062222305c18411,
   0x60062243705c17011,
   0x600623a2c05c18411,
   0x600623a2c05c18411,
   0x18018957e47ca2d09d51c31,
   0x600623a3005c18411,
   0x600617db305cd7011,
   0x600617db305cd7011,
   0x600617db405cd7011,
   0x600617db505cd7011,
   0x600623bcf05c18411,
   0x600623bcf05c18411,
   0x18018957e47cc5e09d51c31,
   0x600623bd005c18411,
   0x18018957e47cc6409d51c31,
   0x6006095d302016811,
   0x60060982a4d60b411,
   0x6006200eb1fe21c11,
   0x60060805e00976411,
   0x60060805e00976c11,
   0x60060805e00975c11,
   0x60060805e00976811,
   0x18018201f011,
   0x18018201f011,
   0x18018201f011,
   0x18018201f011,
   0x180180e04011,
   0x18018925ac14,
   0x18018925b414,
   0x600616def0094e011,
   0x1801a1f34411],
  [0x6006878fc45d22411,
   0x1801a1f34411,
   0x180180f08c11,
   0x18018201bc11,
   0x1801a323f511,
   0x18018925e814,
   0x18018925ec14,
   0x18018925f014,
   0x18018925f414,
   0x180180ed6c11,
   0x180182017811,
   0x180180e04811,
   0x526f8018018086f411,
   0x52700018018086fc11,
   0x825fc0180182260014,
   0x600616e0000954c11,
   0x180182017811,
   0x180182017811,
   0x18019b63c111,
   0x18019b63bd11,
   0x60062788102008d11,
   0x60062788202008d11,
   0x180180e04011,
   0x180182017811,
   0x180180ed6411,
   0x180189261014,
   0x180182017811,
   0x1801a323f911,
   0x180182027411,
   0x180180e04011,
   0x180188c3cd11,
   0x18019f10b461,
   0x1801892ee014,
   0x180180ed6c11,
   0x180182017811,
   0x180180e04811,
   0x180182017811,
   0x180180e04811,
   0x180180e04811,
   0x60067ca9e09d51c11],
  [0x6006255f91f2a7831,
   0x180180ed6c11,
   0x180180ed8811,
   0x180182017811,
   0x180182017811,
   0x180180e05411,
   0x180180e04011,
   0x180182017811,
   0x18019b63d911,
   0x180182017811,
   0x180182017811,
   0x180182017811,
   0x180182017811,
   0x180182017811,
   0x180182017811,
   0x180180e04011,
   0x826380180182263c14,
   0x18018923fd14,
   0x180180ed8011,
   0x180182017811,
   0x180182017811,
   0x180180e05011,
   0x1801a3240111,
   0x1801a303dd11,
   0x180180e04011,
   0x180189240514,
   0x180182017811,
   0x180180e04811,
   0x180180e04811,
   0x180180e04811,
   0x180180ed6c11,
   0x18019b63e511,
   0x18019b640911,
   0x180182017811,
   0x180180e05411,
   0x180180e05411,
   0x180180ed8811,
   0x18019d22bd11,
   0x180180e04011,
   0x180182017811],
  [0x180180e04011,
   0x180182017811,
   0x180182017811,
   0x180182017811,
   0x180180e04011,
   0x180182017811,
   0x180182017811,
   0x180182017811,
   0x180182017811,
   0x180180e04011,
   0x180182017811,
   0x180182017811,
   0x180182017811,
   0x180182017811,
   0x180180e04011,
   0x180180e04011,
   0x180180e04011,
   0x18019b640d11,
   0x18019b63e911,
   0x180189202914,
   0x18019fe22c11,
   0x180182017811,
   0x180180e05011,
   0x180180e05011,
   0x1801a3241111,
   0x180180ed8011,
   0x180189241514,
   0x180189241514,
   0x180180e04811,
   0x180180e05411,
   0x180180e04011,
   0x180180e04011,
   0x180180e04011,
   0x180180e04011,
   0x180180e04011,
   0x180182017811,
   0x180182017811,
   0x180182017811,
   0x180180e04011,
   0x180180e04011],
  [0x180180e04011,
   0x180180e04011,
   0x180182017811,
   0x180182017811,
   0x180182017811,
   0x180180e04011,
   0x180180e04011,
   0x180180e04011,
   0x180189220914,
   0x60063288a0c822411,
   0x180180e05011,
   0x180180e04011,
   0x180189241914,
   0x180180e04011,
   0x180180e04011,
   0x180180e04011,
   0x180180e04011,
   0x180180e04011,
   0x180180e04011,
   0x180189221114,
   0x180189224d14,
   0x180189225114,
   0x180180ed8011,
   0x180180e05011,
   0x5269c0180180869811,
   0x526a4018018086a011,
   0x180180ed6c11,
   0x180180e05011,
   0x180180e05011,
   0x180180e04811,
   0x60067ca2d09d51c11,
   0x6006255f91f28b431,
   0x180180ed8011,
   0x180180ed6c11,
   0x180180e04811,
   0x180180e05011,
   0x180180e04811,
   0x180180e04811,
   0x180180ed6c11,
   0x180180e04811],
  [0x180180e04811,
   0x180180ed6c11,
   0x180180e04811,
   0x180180e04811,
   0x60067cc5e09d51c11,
   0x6006255f91f317831,
   0x60067cc6409d51c11,
   0x6006255f91f319031,
   0x18018201f011,
   0x18018201f011,
   0x18018201f011,
   0x18018201bc11,
   0x180182017811,
   0x180182017811,
   0x180182017811,
   0x180182017811,
   0x180182017811,
   0x180182017811,
   0x180182017811,
   0x180182017811,
   0x8d5ed006006c8,
   0x18018c82d811,
   0x87080600611,
   0x18018802d411,
   0x180189e20011,
   0x180180921c11,
   0x18018454dc11,
   0x180188032011,
   0x1801a2b7cc11,
   0x8da7000600611,
   0x1801a1e3f111,
   0x180188e6f011,
   0x180182751011,
   0x180189e20411,
   0x180189e20811,
   0x180189e20c11,
   0x8e27000600611,
   0x8ea7700600601,
   0x180185f3b011,
   0x180180955011],
  [0x180180925011,
   0x180182008d11,
   0x180188033411,
   0x180180980411,
   0x180185f80811,
   0x1801a1e41d11,
   0x1801a2b80c11,
   0x180189c19c11,
   0x18018221b011,
   0x18018090b811,
   0x180185f26411,
   0x1801808e4811,
   0x180188870411,
   0x180185f13811,
   0x18019f2a7811,
   0x1801a1e42111,
   0x18018095c411,
   0x1801a1e42511,
   0x1801a1e42911,
   0x180180962411,
   0x1801a1e42d11,
   0x180189c02011,
   0x18018221c411,
   0x180188870811,
   0x1801a1e43111,
   0x180189c02811,
   0x180188e70c11,
   0x180188e71011,
   0x180188e08011,
   0x18018221cc11,
   0x180188f6ac11,
   0x1801a1e43511,
   0x180188e71411,
   0x180188e08c11,
   0x180188e09011,
   0x180188e71c11,
   0x180188e72411,
   0x180188e72811,
   0x180188e09811,
   0x18018c835411],
  [0x18018803ac11,
   0x180189e23811,
   0x8da1100600611,
   0x180188e74011,
   0x180189e23c11,
   0x180189e24011,
   0x180189e24411,
   0x8e21100600611,
   0x8ea1800600601,
   0x18018886a811,
   0x180185f16011,
   0x18019f28b411,
   0x18018886ac11,
   0x18018c83b011,
   0x180188035011,
   0x180189e25811,
   0x180188e6b011,
   0x180189e25c11,
   0x180189e26011,
   0x180189e26411,
   0x8eab500600601,
   0x18019f317811,
   0x180188e57811,
   0x8eb2d00600601,
   0x18019f319011,
   0x8d620006006c8,
   0x180188e0bc11,
   0x180188e0c811,
   0x180188e0cc11,
   0x180188e0d411,
   0x8d62c006006c8,
   0x8d62f006006c8,
   0x18018c83fc11,
   0x18018803f811,
   0x180189e28011,
   0x180189e28411,
   0x180189e28811,
   0x180189e28c11,
   0x18018221d411,
   0x18018221dc11],
  [0x18018c845c11,
   0x180189e2a011,
   0x180189e2a411,
   0x180189e2a811,
   0x180189e2ac11,
   0x18018221b811,
   0x180188045811]]

/-- Where each state goes after a reduction. -/
def gotoRows : List (List Nat) := [
  [0x0,
   0x3643ed603715e0baeeada61b4986c261ae986b525aa98ea263a698e9263a177e72639af4a62639676651d99298e42548e98632618a59e22618659e12618059dfa617898dc3e16c98daddf689858ddf609857a635c94d6ad25876531664a59921664659911664259901663e598f1663a598e16634598c96630598b9662a59899672459c8966200344966111dc3966045980dde,
   0xe53238cc7d8de3580fd531b4cc6d13133cc5cd3172cc4c5782ebbab6986d261b0986bad3ad496aa63a898e9a63a498e8cc5a178e72639af4a62639676651d99298e42548e98632618a59e22618659e12618059dfa617898dc3e16c98dade3689859cc46378d82615e98d72535ab4961d94c599296648599196644599096640598f9663c598e96638598d16632598c1662e598a9662659c916722598800f1259844770e5981166,
   0xe53238cc7d8de3580fd531b4cc6d13133cc5cd3172cc4c5782ebbab6986d261b0986bad3ad496aa63a898e9a63a498e8cc5a178e72639af4a62639676651d99298e42548e98632618a59e22618659e12618059dfa617898dc3e16c98dade3689859cc46378d82615e98d72535ab4961d94c599296648599196644599096640598f9663c598e96638598d16632598c1662e598a9662659c916722598800f1259844770e5981166,
   0xe53238cc7d8de35811d531b4cc6d13133cc5cd3172cc4c5782ebbab6986d261b0986bad3ad496aa63a898e9a63a498e8cc5a178e72639af4a62639676651d99298e42548e98632618a59e22618659e12618059dfa617898dc3e16c98dade3689859cc46378d82615e98d72535ab4961d94c599296648599196644599096640598f9663c598e96638598d16632598c1662e598a9662659c91672259880111259844770e5981166,
   0xe53238cfdd8de35813d531b4cc6d13133cfccd3f32cc4c5782ebbab6986d261b0986bad3ad496aa63a898e9a63a498e8cfca178e72639af4a62639676651d99298e42548e98632618a59e22618659e12618059dfa617898dc3e16c98dade3689859cc46378d82615e98d72535ab4961d94c599296648599196644599096640598f9663c598e96638598d16632598c1662e598a9662659c91672259880131259844770e5981166,
   0xe53238cfdd8de35813d531b4cc6d13133cfccd3f32cc4c5782ebbab6986d261b0986bad3ad496aa63a898e9a63a498e8cfca178e72639af4a62639676651d99298e42548e98632618a59e22618659e12618059dfa617898dc3e16c98dade3689859cc46378d82615e98d72535ab4961d94c599296648599196644599096640598f9663c598e96638598d16632598c1662e598a9662659c91672259880131259844770e5981166,
   0xd90fb5807c5782ebbab6986d261b0986ba61ad496aa63a898e9a63a498e85df9c98e6bd29898e59d9947664a63909523a618c98629678898619678498601677e985e26370f85b2636b77da2616377d82615e98d72535ab4961d94c599296648599196644599096640598f9663c598e96638598d16632598c1662e598a9662659c91672259880071259844770e5981166,
   0xd90fb5809c5782ebbab6986d261b0986ba61ad496aa63a898e9a63a498e85df9c98e6bd29898e59d9947664a63909523a618c98629678898619678498601677e985e26370f85b2636b77da2616377d82615e98d72535ab4961d94c599296648599196644599096640598f9663c598e96638598d16632598c1662e598a9662659c91672259880091259844770e5981166,
   0xd90fb5807c5782ebbab6986d261b0986ba61ad496aa63a898e9a63a498e85df9c98e6bd29898e59d9947664a63909523a618c98629678898619678498601677e985e26370f85b2636b77da2616377d82615e98d72535ab4961d94c599296648599196644599096640598f9663c598e96638598d16632598c1662e598a9662659c91672259880071259844770e5981166,
   0xd90fb580bc5782ebbab6986d261b0986ba61ad496aa63a898e9a63a498e85df9c98e6bd29898e59d9947664a63909523a618c98629678898619678498601677e985e26370f85b2636b77da2616377d82615e98d72535ab4961d94c599296648599196644599096640598f9663c598e96638598d16632598c1662e598a9662659c916722598800b1259844770e5981166,
   0xd90fb5807c5782ebbab6986d261b0986ba61ad496aa63a898e9a63a498e85df9c98e6bd29898e59d9947664a63909523a618c98629678898619678498601677e985e26370f85b2636b77da2616377d82615e98d72535ab4961d94c599296648599196644599096640598f9663c598e96638598d16632598c1662e598a9662659c91672259880071259844770e5981166,
   0xd90fb580ec5782ebbab6986d261b0986ba61ad496aa63a898e9a63a498e85df9c98e6bd29898e59d9947664a63909523a618c98629678898619678498601677e985e26370f85b2636b77da2616377d82615e98d72535ab4961d94c599296648599196644599096640598f9663c598e96638598d16632598c1662e598a9662659c916722598800e1259844770e5981166,
   0xd90fb5807c5782ebbab6986d261b0986ba61ad496aa63a898e9a63a498e85df9c98e6bd29898e59d9947664a63909523a618c98629678898619678498601677e985e26370f85b2636b77da2616377d82615e98d72535ab4961d94c599296648599196644599096640598f9663c598e96638598d16632598c1662e598a9662659c91672259880071259844770e5981166,
   0xd90fb5807c5782ebbab6986d261b0986ba61ad496aa63a898e9a63a498e85df9c98e6bd29898e59d9947664a63909523a618c98629678898619678498601677e985e26370f85b2636b77da2616377d82615e98d72535ab4961d94c599296648599196644599096640598f9663c598e96638598d16632598c1662e598a9662659c91672259880071259844770e5981166,
   0xd90fb5807c5782ebbab6986d261b0986ba61ad496aa63a898e9a63a498e85df9c98e6bd29898e59d9947664a63909523a618c98629678898619678498601677e985e26370f85b2636b77da2616377d82615e98d72535ab4961d94c599296648599196644599096640598f9663c598e96638598d16632598c1662e598a9662659c91672259880071259844770e5981166,
   0xd90fb580fc5782ebbab6986d261b0986ba61ad496aa63a898e9a63a498e85df9c98e6bd29898e59d9947664a63909523a618c98629678898619678498601677e985e26370f85b2636b77da2616377d82615e98d72535ab4961d94c599296648599196644599096640598f9663c598e96638598d16632598c1662e598a9662659c916722598800f1259844770e5981166,
   0xd90fb5807c5782ebbab6986d261b0986ba61ad496aa63a898e9a63a498e85df9c98e6bd29898e59d9947664a63909523a618c98629678898619678498601677e985e26370f85b2636b77da2616377d82615e98d72535ab4961d94c599296648599196644599096640598f9663c598e96638598d16632598c1662e598a9662659c91672259880071259844770e5981166,
   0xd90fb5811c5782ebbab6986d261b0986ba61ad496aa63a898e9a63a498e85df9c98e6bd29898e59d9947664a63909523a618c98629678898619678498601677e985e26370f85b2636b77da2616377d82615e98d72535ab4961d94c599296648599196644599096640598f9663c598e96638598d16632598c1662e598a9662659c91672259880111259844770e5981166,
   0xd90fb5807c5782ebbab6986d261b0986ba61ad496aa63a898e9a63a498e85df9c98e6bd29898e59d9947664a63909523a618c98629678898619678498601677e985e26370f85b2636b77da2616377d82615e98d72535ab4961d94c599296648599196644599096640598f9663c598e96638598d16632598c1662e598a9662659c91672259880071259844770e5981166,
   0xd90fb5813c5782ebbab6986d261b0986ba61ad496aa63a898e9a63a498e85df9c98e6bd29898e59d9947664a63909523a618c98629678898619678498601677e985e26370f85b2636b77da2616377d82615e98d72535ab4961d94c599296648599196644599096640598f9663c598e96638598d16632598c1662e598a9662659c91672259880131259844770e5981166,
   0xd90fb5816c5782ebbab6986d261b0986ba61ad496aa63a898e9a63a498e85df9c98e6bd29898e59d9947664a63909523a618c98629678898619678498601677e985e26370f85b2636b77da2616377d82615e98d72535ab4961d94c599296648599196644599096640598f9663c598e96638598d16632598c1662e598a9662659c91672259880161259844770e5981166,
   0xd90fb5807c5782ebbab6986d261b0986ba61ad496aa63a898e9a63a498e85df9c98e6bd29898e59d9947664a63909523a618c98629678898619678498601677e985e26370f85b2636b77da2616377d82615e98d72535ab4961d94c599296648599196644599096640598f9663c598e96638598d16632598c1662e598a9662659c91672259880071259844770e5981166,
   0x36473c5782ebbab6986d261b0986ba61ad496aa63a898e9a63a498e85df9c98e6bd29898e59d9947664a63909523a618c98629678898619678498601677e985e26370f85b2636b77da2616377d82615e98d72535ab4961d94c599296648599196644599096640598f9663c598e96638598d16632598c1662e598a9662659c91672259885e81259844770e5981166,
   0x3643ec5782ebbab6986d261b0986ba61ad496aa63a898e9a63a498e85df9c98e6bd29898e59d9947664a63909523a618c98629678898619678498601677e985e26370f85b2636b77da2616377d82615e98d72535ab4961d94c599296648599196644599096640598f9663c598e96638598d16632598c1662e598a9662659c916722598816f1259844770e5981166,
   0x3643ec5782ebbab6986d261b0986ba61ad496aa63a898e9a63a498e85df9c98e6bd29898e59d9947664a63909523a618c98629678898619678498601677e985e26370f85b2636b77da2616377d82615e98d72535ab4961d94c599296648599196644599096640598f9663c598e96638598d16632598c1662e598a9662659c91672259881721259844770e5981166,
   0x3643ec5782ebbab6986d261b0986ba61ad496aa63a898e9a63a498e85df9c98e6bd29898e59d9947664a63909523a618c98629678898619678498601677e985e26370f85b2636b77da2616377d82615e98d72535ab4961d94c599296648599196644599096640598f9663c598e96638598d16632598c1662e598a9662659c916722598814f1259844770e5981166,
   0x3643ec5782ebbab6986d261b0986ba61ad496aa63a898e9a63a498e85df9c98e6bd29898e59d9947664a63909523a618c98629678898619678498601677e985e26370f85b2636b77da2616377d82615e98d72535ab4961d94c599296648599196644599096640598f9663c598e96638598d16632598c1662e598a9662659c91672259881771259844770e5981166,
   0x3643ec5782ebbab6986d261b0986ba61ad496aa63a898e9a63a498e85df9c98e6bd29898e59d9947664a63909523a618c98629678898619678498601677e985e26370f85b2636b77da2616377d82615e98d72535ab4961d94c599296648599196644599096640598f9663c598e96638598d16632598c1662e598a9662659c91672259881781259844770e5981166,
   0x3643ec5782ebbab6986d261b0986ba61ad496aa63a898e9a63a498e85df9c98e6bd29898e59d9947664a63909523a618c98629678898619678498601677e985e26370f85b2636b77da2616377d82615e98d72535ab4961d94c599296648599196644599096640598f9663c598e96638598d16632598c1662e598a9662659c91672259881891259844770e5981166,
   0x3643ec5782ebbab6986d261b0986ba61ad496aa63a898e9a63a498e85df9c98e6bd29898e59d9947664a63909523a618c98629678898619678498601677e985e26370f85b2636b77da2616377d82615e98d72535ab4961d94c599296648599196644599096640598f9663c598e96638598d16632598c1662e598a9662659c91672259881901259844770e5981166,
   0x3643ec5782ebbab6986d261b0986ba61ad496aa63a898e9a63a498e85df9c98e6bd29898e59d9947664a63909523a618c98629678898619678498601677e985e26370f85b2636b77da2616377d82615e98d72535ab4961d94c599296648599196644599096640598f9663c598e96638598d16632598c1662e598a9662659c91672259881981259844770e5981166,
   0x3643ec5782ebbab6986d261b0986ba61ad496aa63a898e9a63a498e85df9c98e6bd29898e59d9947664a63909523a618c98629678898619678498601677e985e26370f85b2636b77da2616377d82615e98d72535ab4961d94c599296648599196644599096640598f9663c598e96638598d16632598c1662e598a9662659c916722598819c1259844770e5981166,
   0x3643ec5782ebbab6986d261b0986ba61ad496aa63a898e9a63a498e85df9c98e6bd29898e59d9947664a63909523a618c98629678898619678498601677e985e26370f85b2636b77da2616377d82615e98d72535ab4961d94c599296648599196644599096640598f9663c598e96638598d16632598c1662e598a9662659c916722598819d1259844770e5981166,
   0x3643ec5782ebbab6986d261b0986ba61ad496aa63a898e9a63a498e85df9c98e6bd29898e59d9947664a63909523a618c98629678898619678498601677e985e26370f85b2636b77da2616377d82615e98d72535ab4961d94c599296648599196644599096640598f9663c598e96638598d16632598c1662e598a9662659c916722598819e1259844770e5981166,
   0x3643ec5782ebbab6986d261b0986ba61ad496aa63a898e9a63a498e85df9c98e6bd29898e59d9947664a63909523a618c98629678898619678498601677e985e26370f85b2636b77da2616377d82615e98d72535ab4961d94c599296648599196644599096640598f9663c598e96638598d16632598c1662e598a9662659c91672259881a01259844770e5981166,
   0x3643ec5782ebbab6986d261b0986ba61ad496aa63a898e9a63a498e85df9c98e6bd29898e59d9947664a63909523a618c98629678898619678498601677e985e26370f85b2636b77da2616377d82615e98d72535ab4961d94c599296648599196644599096640598f9663c598e96638598d16632598c1662e598a9662659c91672259881a11259844770e5981166,
   0x3643ec5782ebbab6986d261b0986ba61ad496aa63a898e9a63a498e85df9c98e6bd29898e59d9947664a63909523a618c98629678898619678498601677e985e26370f85b2636b77da2616377d82615e98d72535ab4961d94c599296648599196644599096640598f9663c598e96638598d16632598c1662e598a9662659c91672259881a21259844770e5981166,
   0x3643ec5782ebbab6986d261b0986ba61ad496aa63a898e9a63a498e85df9c98e6bd29898e59d9947664a63909523a618c98629678898619678498601677e985e26370f85b2636b77da2616377d82615e98d72535ab4961d94c599296648599196644599096640598f9663c598e96638598d16632598c1662e598a9662659c91672259881a31259844770e5981166,
   0x36473c5782ebbab6986d261b0986ba61ad496aa63a898e9a63a498e85df9c98e6bd29898e59d9947664a63909523a618c98629678898619678498601677e985e26370f85b2636b77da2616377d82615e98d72535ab4961d94c599296648599196644599096640598f9663c598e96638598d16632598c1662e598a9662659c916722598816f1259844770e5981166],
  [0x36473c5782ebbab6986d261b0986ba61ad496aa63a898e9a63a498e85df9c98e6bd29898e59d9947664a63909523a618c98629678898619678498601677e985e26370f85b2636b77da2616377d82615e98d72535ab4961d94c599296648599196644599096640598f9663c598e96638598d16632598c1662e598a9662659c91672259881721259844770e5981166,
   0x36473c5782ebbab6986d261b0986ba61ad496aa63a898e9a63a498e85df9c98e6bd29898e59d9947664a63909523a618c98629678898619678498601677e985e26370f85b2636b77da2616377d82615e98d72535ab4961d94c599296648599196644599096640598f9663c598e96638598d16632598c1662e598a9662659c91672259885191259844770e5981166,
   0x36473c5782ebbab6986d261b0986ba61ad496aa63a898e9a63a498e85df9c98e6bd29898e59d9947664a63909523a618c98629678898619678498601677e985e26370f85b2636b77da2616377d82615e98d72535ab4961d94c599296648599196644599096640598f9663c598e96638598d16632598c1662e598a9662659c91672259881771259844770e5981166,
   0x36473c5782ebbab6986d261b0986ba61ad496aa63a898e9a63a498e85df9c98e6bd29898e59d9947664a63909523a618c98629678898619678498601677e985e26370f85b2636b77da2616377d82615e98d72535ab4961d94c599296648599196644599096640598f9663c598e96638598d16632598c1662e598a9662659c91672259881781259844770e5981166,
   0x36473c5782ebbab6986d261b0986ba61ad496aa63a898e9a63a498e85df9c98e6bd29898e59d9947664a63909523a618c98629678898619678498601677e985e26370f85b2636b77da2616377d82615e98d72535ab4961d94c599296648599196644599096640598f9663c598e96638598d16632598c1662e598a9662659c91672259881891259844770e5981166,
   0x36473c5782ebbab6986d261b0986ba61ad496aa63a898e9a63a498e85df9c98e6bd29898e59d9947664a63909523a618c98629678898619678498601677e985e26370f85b2636b77da2616377d82615e98d72535ab4961d94c599296648599196644599096640598f9663c598e96638598d16632598c1662e598a9662659c91672259881901259844770e5981166,
   0x36473c5782ebbab6986d261b0986ba61ad496aa63a898e9a63a498e85df9c98e6bd29898e59d9947664a63909523a618c98629678898619678498601677e985e26370f85b2636b77da2616377d82615e98d72535ab4961d94c599296648599196644599096640598f9663c598e96638598d16632598c1662e598a9662659c91672259881981259844770e5981166,
   0x36473c5782ebbab6986d261b0986ba61ad496aa63a898e9a63a498e85df9c98e6bd29898e59d9947664a63909523a618c98629678898619678498601677e985e26370f85b2636b77da2616377d82615e98d72535ab4961d94c599296648599196644599096640598f9663c598e96638598d16632598c1662e598a9662659c916722598819c1259844770e5981166,
   0x36473c5782ebbab6986d261b0986ba61ad496aa63a898e9a63a498e85df9c98e6bd29898e59d9947664a63909523a618c98629678898619678498601677e985e26370f85b2636b77da2616377d82615e98d72535ab4961d94c599296648599196644599096640598f9663c598e96638598d16632598c1662e598a9662659c916722598819d1259844770e5981166,
   0x36473c5782ebbab6986d261b0986ba61ad496aa63a898e9a63a498e85df9c98e6bd29898e59d9947664a63909523a618c98629678898619678498601677e985e26370f85b2636b77da2616377d82615e98d72535ab4961d94c599296648599196644599096640598f9663c598e96638598d16632598c1662e598a9662659c916722598819e1259844770e5981166,
   0x36473c5782ebbab6986d261b0986ba61ad496aa63a898e9a63a498e85df9c98e6bd29898e59d9947664a63909523a618c98629678898619678498601677e985e26370f85b2636b77da2616377d82615e98d72535ab4961d94c599296648599196644599096640598f9663c598e96638598d16632598c1662e598a9662659c91672259881a01259844770e5981166,
   0x36473c5782ebbab6986d261b0986ba61ad496aa63a898e9a63a498e85df9c98e6bd29898e59d9947664a63909523a618c98629678898619678498601677e985e26370f85b2636b77da2616377d82615e98d72535ab4961d94c599296648599196644599096640598f9663c598e96638598d16632598c1662e598a9662659c91672259881a11259844770e5981166,
   0x36473c5782ebbab6986d261b0986ba61ad496aa63a898e9a63a498e85df9c98e6bd29898e59d9947664a63909523a618c98629678898619678498601677e985e26370f85b2636b77da2616377d82615e98d72535ab4961d94c599296648599196644599096640598f9663c598e96638598d16632598c1662e598a9662659c91672259881a21259844770e5981166,
   0x36473c5782ebbab6986d261b0986ba61ad496aa63a898e9a63a498e85df9c98e6bd29898e59d9947664a63909523a618c98629678898619678498601677e985e26370f85b2636b77da2616377d82615e98d72535ab4961d94c599296648599196644599096640598f9663c598e96638598d16632598c1662e598a9662659c91672259881a31259844770e5981166,
   0xd91ff1619baeeada05b4816c205ae816aa06a881a9a06a481a86269c81a6bdc9881a59b5946d64a06907d63a058c816220584815fa0578819c3e46c819ae26688158e26608157a065c7d16a38586d444a8,
   0xd92e715e0baeeada61b4986c261ae986aa63a898e9a63a498e85df9c98e6bd29898e59d9947664a63909523a618c986226184985fa617898dc3e16c98daddf689858ddf609857a635c94d6a65587644477,
   0xd92e7163abaeeada61b4986c261ae986aa63a898e9a63a498e86399c98e6bde9898e59e1947864a63909523a618c986226184985fa617898dc3e16c98dae39689858e39609857a635c94d6ad1587844477,
   0xd91ff1627baeeada05b4816c205ae816aa06a881a9a06a481a86189c81a6bdd9881a59af946be4a06907d63a058c816220584815fa0578819c3e46c819ae18688158e18608157a065c7d16b23586bc44a8,
   0xd91ff1641baeeada05b4816c205ae816aa06a881a9a06a481a86469c81a6bdf9881a59f0947c24a06907d63a058c816220584815fa0578819c3e46c819ae46688158e46608157a065c7d16b4c587c044a8,
   0x0,
   0x0,
   0x0,
   0x0,
   0x0,
   0x0,
   0x0,
   0x0,
   0x0,
   0x0,
   0x0,
   0x0,
   0x0,
   0x0,
   0x0,
   0xe933b9ccdd91ff2c42c92031619baeeada05b4816c205ae816aa06a881a9a06a481a8ccca110672069af7262069676a51da9281a41f58e81632058881612057e815e20670f91b2066b105a2056532d8c41608157a065c7d16ae3586d444a8,
   0xe933b9ccdd91ff2c42c92031619baeeada05b4816c205ae816aa06a881a9a06a481a8ccca110672069af7262069676a51da9281a41f58e81632058881612057e815e20670f91b2066b105a2056532d8c41608157a065c7d16ae4586d444a8,
   0xe933b9d02d91ff2c42c92031619baeeada05b4816c205ae816aa06a881a9a06a481a8d01a110672069af7262069676a51da9281a41f58e81632058881612057e815e20670f91b2066b105a2056532d8c41608157a065c7d16b00586d444a8,
   0xe933b9d02d91ff2c42c92031619baeeada05b4816c205ae816aa06a881a9a06a481a8d01a110672069af7262069676a51da9281a41f58e81632058881612057e815e20670f91b2066b105a2056532d8c41608157a065c7d16b00586d444a8,
   0xe933b9d02d91ff2c42c92031619baeeada05b4816c205ae816aa06a881a9a06a481a8d01a110672069af7262069676a51da9281a41f58e81632058881612057e815e20670f91b2066b105a2056532d8c41608157a065c7d16b00586d444a8,
   0xe933b9d02d91ff2c42c92031619baeeada05b4816c205ae816aa06a881a9a06a481a8d01a110672069af7262069676a51da9281a41f58e81632058881612057e815e20670f91b2066b105a2056532d8c41608157a065c7d16b00586d444a8],
  [0xe933b9d02d91ff2c42c92031619baeeada05b4816c205ae816aa06a881a9a06a481a8d01a110672069af7262069676a51da9281a41f58e81632058881612057e815e20670f91b2066b105a2056532d8c41608157a065c7d16b00586d444a8,
   0xd921b15e0baeeada61b4986c261ae986aa63a898e9a63a498e85df9c98e6bd29898e59d9947664a63909523a618c98629678898619678498601677e985e26370f85b2636b77da2616377d82615e98d72535aca161d92659c9167111dc396e,
   0xd921b15e0baeeada61b4986c261ae986aa63a898e9a63a498e85df9c98e6bd29898e59d9947664a63909523a618c98629678898619678498601677e985e26370f85b2636b77da2616377d82615e98d72535aca961d92659c9167111dc398d,
   0xd92eb15e0baeeada61b4986c261ae986aa63a898e9a63a498e85df9c98e6bd29898e59d9947664a63909523a618c98629678898619678498601677e985e26370f85b2636b77da2616377d82615e98d72535aca161d92659c9167111dc396e,
   0xd92eb15e0baeeada61b4986c261ae986aa63a898e9a63a498e85df9c98e6bd29898e59d9947664a63909523a618c98629678898619678498601677e985e26370f85b2636b77da2616377d82615e98d72535aca961d92659c9167111dc398d,
   0xe940f647fcb10b24a9c589eebbab6816d205b0816ba05aa81aa206a681a9206a11ba72069af7662069677e51df9281a41f58e81632058881612057e815e20670f91b2066b1b9a205654018c6e608157a065c7d16b58586bc44a8,
   0xd91ff1619baeeada05b4816c205ae816b5f8aa81aa206a681a9206a137a72069af7262069678e51e39281a41f58e81632058881612057e815e20670f91b2066b379a2056337982055e81971f45ab9561e34a1ac986b241ac44a8,
   0xd91ff2c42c938f1619baeeada05b4816c205ae816aa06a881a9a06a481a8ce2a110672069af7262069676a51da9281a41f58e81632058881612057e815e20670f91b2066b105a205655198c41608157a065c7d16ae6586d444a8,
   0xe933b647fcb10b2480c5866ebbab6816d205b0816ba05aa81aa206a681a9206a110672069af726206967a251e89281a41f58e81632058881612057e815e20670f91b2066b105a2056532d8c41608157a065c7d16b4f586d444a8,
   0xe933b647fcb10b2480c589eebbab6816d205b0816ba05aa81aa206a681a9206a11ba72069af7662069677e51df9281a41f58e81632058881612057e815e20670f91b2066b1b9a2056532d8c6e608157a065c7d16b58586bc44a8,
   0xd91ff1619baeeada05b4816c205ae816b645aa81aa206a681a9206a137a72069af7262069678e51e39281a41f58e81632058881612057e815e20670f91b2066b379a2056337982055e81971f45ac9961e34a1b4986d241b444a8,
   0xd91ff2c42c91fb1619baeeada05b4816c205ae816b5e7aa81aa206a681a9206a110672069af7262069676a51da9281a41f58e81632058881612057e815e20670f91b2066b105a205653298c41608157a065c7d16ae2586d444a8,
   0x3647fcb10b24e3c589eebbab6816d205b0816ba05aa81aa206a681a9206a11ba72069af7662069677e51df9281a41f58e81632058881612057e815e20670f91b2066b1b9a205655198c6e608157a065c7d16b58586bc44a8,
   0xd91ff2c42c91fb1619baeeada05b4816c205ae816b628aa81aa206a681a9206a110672069af7262069676a51da9281a41f58e81632058881612057e815e20670f91b2066b105a205653298c41608157a065c7d16b1c586d444a8,
   0x3647fcb10b247ec589eebbab6816d205b0816ba05aa81aa206a681a9206a11ba72069af7662069677e51df9281a41f58e81632058881612057e815e20670f91b2066b1b9a205653298c6e608157a065c7d16b58586bc44a8,
   0xe73a7647fc5866ebbab6816d205b0816ba05aa81aa206a681a9206a33a286269c81a6bdc9881a59b5946d64a06907d63a058c816220584815fa0578819c3e46c819ae26688158e26608157a065c7d16ae8586d444a8,
   0x3647fcb10b24f3c589eebbab6816d205b0816ba05aa81aa206a681a9206a11ba72069af7662069677e51df9281a41f58e81632058881612057e815e20670f91b2066b1b9a2056559d8c6e608157a065c7d16b58586bc44a8,
   0x3647fc5866ebbab6816d205b0816ba05aa81aa206a681a9206a338a86269c81a6bdc9881a59b5946d64a06907d63a058c816220584815fa0578819c3e46c819ae26688158e26608157a065c7d16ae6586d444a8,
   0x3647fcb10b24f3c589eebbab6816d205b0816ba05aa81aa206a681a9206a11ba72069af7662069677e51df9281a41f58e81632058881612057e815e20670f91b2066b1b9a2056559d8c6e608157a065c7d16b58586bc44a8,
   0xe7433647fc5866ebbab6816d205b0816ba05aa81aa206a681a9206a342e86269c81a6bdc9881a59b5946d64a06907d63a058c816220584815fa0578819c3e46c819ae26688158e26608157a065c7d16b01586d444a8,
   0xe7453647fc5866ebbab6816d205b0816ba05aa81aa206a681a9206a344e86269c81a6bdc9881a59b5946d64a06907d63a058c816220584815fa0578819c3e46c819ae26688158e26608157a065c7d16b1d586d444a8,
   0xd91ff1619baeeada05b4816c205ae816b5fdaa81aa206a681a9206a37f686269c81a6bdc9881a59b5946d64a06907d63a058c816220584815fa0578819c3e46c819ae26688158e26608157a065c7d16aeb586d444a8,
   0x3647fcb10b24efc5866ebbab6816d205b0816ba05aa81aa206a681a9206a110672069af7262069676a51da9281a41f58e81632058881612057e815e20670f91b2066b105a205655618c41608157a065c7d16b29586d444a8,
   0x3647fcb10b24efc589eebbab6816d205b0816ba05aa81aa206a681a9206a11ba72069af7662069677e51df9281a41f58e81632058881612057e815e20670f91b2066b1b9a205655618c6e608157a065c7d16b58586bc44a8,
   0x3647fcb10b24f3c589eebbab6816d205b0816ba05aa81aa206a681a9206a11ba72069af7662069677e51df9281a41f58e81632058881612057e815e20670f91b2066b1b9a2056559d8c6e608157a065c7d16b58586bc44a8,
   0xd91ff1619baeeada05b4816c205ae816b622aa81aa206a681a9206a388a86269c81a6bdc9881a59b5946d64a06907d63a058c816220584815fa0578819c3e46c819ae26688158e26608157a065c7d16b03586d444a8,
   0x364b9c5782ebbab6986d261b0986ba61ad4beaa63a898e9a63a498e85df9c98e6bd29898e59d9947664a63909523a618c986226184985fa617898dc3e16c98daddf689858ddf609857a635c94d6ad4587644477,
   0xd91ff1619baeeada05b4816c205ae816b606aa81aa206a681a9206a189a72069af726206966d651b59281a41f58e81632058881612057e815e20670f91b2066b899a2056389982055e81971f45abb561b54a1c044a8,
   0xd91ff1619baeeada05b4816c205ae816b60daa81aa206a681a9206a189a72069af726206966d651b59281a41f58e81632058881612057e815e20670f91b2066b899a2056389982055e81971f45abcd61b54a1c844a8,
   0xd91ff1619baeeada05b4816c205ae816b63eaa81aa206a681a9206a189a72069af726206966d651b59281a41f58e81632058881612057e815e20670f91b2066b899a2056389982055e81971f45ac9161b54a1d044a8,
   0xd91ff1619baeeada05b4816c205ae816b63faa81aa206a681a9206a189a72069af726206966d651b59281a41f58e81632058881612057e815e20670f91b2066b899a2056389982055e81971f45ac9561b54a1d844a8,
   0xd91ff1627baeeada05b4816c205ae816aa06a881a9a06a481a851a9c81a6bdd9881a59ef947be4a06907d63a058c816220584815fa0578819c3e46c819ad1a688158d1a608157a065c7d16b58587bc44a8,
   0x3647fc5866ebbab6816d205b0816ba05ad832aa06a881a9a06a481a86269c81a6bdc9881a59b5946d64a06907d63a058c816220584815fa0578819c3e46c819ae26688158e26608157a065c7d16af2586d444a8,
   0x3647fc5866ebbab6816d205b0816ba05ad846aa06a881a9a06a481a86269c81a6bdc9881a59b5946d64a06907d63a058c816220584815fa0578819c3e46c819ae26688158e26608157a065c7d16af5586d444a8,
   0x3647fc5866ebbab6816d205b0816ba05ad84aaa06a881a9a06a481a86269c81a6bdc9881a59b5946d64a06907d63a058c816220584815fa0578819c3e46c819ae26688158e26608157a065c7d16af6586d444a8,
   0x3647fc5866ebbab6816d205b0816ba05ad85aaa06a881a9a06a481a86269c81a6bdc9881a59b5946d64a06907d63a058c816220584815fa0578819c3e46c819ae26688158e26608157a065c7d16afa586d444a8,
   0x3647fc5866ebbab6816d205b0816ba05ad8caaa06a881a9a06a481a86269c81a6bdc9881a59b5946d64a06907d63a058c816220584815fa0578819c3e46c819ae26688158e26608157a065c7d16b1f586d444a8,
   0x3647fc5866ebbab6816d205b0816ba05ad8ceaa06a881a9a06a481a86269c81a6bdc9881a59b5946d64a06907d63a058c816220584815fa0578819c3e46c819ae26688158e26608157a065c7d16b20586d444a8,
   0x3647fc5866ebbab6816d205b0816ba05ad8d2aa06a881a9a06a481a86269c81a6bdc9881a59b5946d64a06907d63a058c816220584815fa0578819c3e46c819ae26688158e26608157a065c7d16b21586d444a8,
   0x3647fc5866ebbab6816d205b0816ba05ad8d6aa06a881a9a06a481a86269c81a6bdc9881a59b5946d64a06907d63a058c816220584815fa0578819c3e46c819ae26688158e26608157a065c7d16b22586d444a8],
  [0x364b9c5782ebbab6986d261b0986ba61ad4c2aa63a898e9a63a498e85df9c98e6bd29898e59d9947664a63909523a618c986226184985fa617898dc3e16c98daddf689858ddf609857a635c94d6ad5587644477,
   0xd92e715e0baeeada61b4986c261ae986aa06a881a9a06a481a86189c81a6bdd9881a59d1947464a06908da3a618c986226184985fa6178819c3e46c819ae18689858e18609857a065c8d56b57587444477,
   0x364b9c5782ebbab6986d261b0986ba61aa98ea263a698e9263a177e72639af4a62639676651d99298e42548e98632618898612617e985e26370f85b2636b77da2616377d82615e98d72535a9b961d92a9b44477,
   0xe535b8cd5d91e6ebba8a59e19678059c99672459c3968091e01d27,
   0x3647fc5866ebbab6816d205b0816ba05ad86eaa06a881a9a06a481a86269c81a6bdc9881a59b5946d64a06907d63a058c816220584815fa0578819c3e46c819ae26688158e26608157a065c7d16aff586d444a8,
   0x3647fc5866ebbab6816d205b0816ba05ad7eaaa06a881a9a06a481a86269c81a6bdc9881a59b5946d64a06907d63a058c816220584815fa0578819c3e46c819ae26688158e26608157a065c7d16ae7586d444a8,
   0x364b9c5782ebbab6986d261b0986ba61aa98ea263a698e9263a177e72639af4a62639676651d99298e42548e98632618898612617e985e26370f85b2636b77da2616377d82615e98d72535a9ed61d92a9e84477,
   0x3647fc5866ebbab6816d205b0816ba05ad7f2aa06a881a9a06a481a86269c81a6bdc9881a59b5946d64a06907d63a058c816220584815fa0578819c3e46c819ae26688158e26608157a065c7d16aea586d444a8,
   0x364b9c5782ebbab6986d261b0986ba61aa98ea263a698e9263a177e72639af4a62639676651d99298e42548e98632618898612617e985e26370f85b2636b77da2616377d82615e98d72535aa3961d92aa344477,
   0x364b9c5782ebbab6986d261b0986ba61aa98ea263a698e9263a177e72639af4a62639676651d99298e42548e98632618898612617e985e26370f85b2636b77da2616377d82615e98d72535aa5561d92aa504477,
   0x364b9c5782ebbab6986d261b0986ba61aa98ea263a698e9263a177e72639af4a62639676651d99298e42548e98632618898612617e985e26370f85b2636b77da2616377d82615e98d72535aa6161d92aa5c4477,
   0x364b9c5782ebbab6986d261b0986ba61aa98ea263a698e9263a177e72639af4a62639676651d99298e42548e98632618898612617e985e26370f85b2636b77da2616377d82615e98d72535aa6961d92aa644477,
   0x3647fc5866ebbab6816d205b0816ba05ad81eaa06a881a9a06a481a86269c81a6bdc9881a59b5946d64a06907d63a058c816220584815fa0578819c3e46c819ae26688158e26608157a065c7d16aee586d444a8,
   0x3647fc5866ebbab6816d205b0816ba05ad826aa06a881a9a06a481a86269c81a6bdc9881a59b5946d64a06907d63a058c816220584815fa0578819c3e46c819ae26688158e26608157a065c7d16aef586d444a8,
   0x3647fc5866ebbab6816d205b0816ba05ad82aaa06a881a9a06a481a86269c81a6bdc9881a59b5946d64a06907d63a058c816220584815fa0578819c3e46c819ae26688158e26608157a065c7d16af0586d444a8,
   0x3647fc5866ebbab6816d205b0816ba05ad82eaa06a881a9a06a481a86269c81a6bdc9881a59b5946d64a06907d63a058c816220584815fa0578819c3e46c819ae26688158e26608157a065c7d16af1586d444a8,
   0x3647fc5866ebbab6816d205b0816ba05ad842aa06a881a9a06a481a86269c81a6bdc9881a59b5946d64a06907d63a058c816220584815fa0578819c3e46c819ae26688158e26608157a065c7d16af4586d444a8,
   0x3647fc5866ebbab6816d205b0816ba05ad84eaa06a881a9a06a481a86269c81a6bdc9881a59b5946d64a06907d63a058c816220584815fa0578819c3e46c819ae26688158e26608157a065c7d16af7586d444a8,
   0x3647fc5866ebbab6816d205b0816ba05ad852aa06a881a9a06a481a86269c81a6bdc9881a59b5946d64a06907d63a058c816220584815fa0578819c3e46c819ae26688158e26608157a065c7d16af8586d444a8,
   0x3647fc5866ebbab6816d205b0816ba05ad856aa06a881a9a06a481a86269c81a6bdc9881a59b5946d64a06907d63a058c816220584815fa0578819c3e46c819ae26688158e26608157a065c7d16af9586d444a8,
   0x3647fc5866ebbab6816d205b0816ba05aa81aa206a681a9206a189a72069af726206966d651b59281a41f58e81632058881612057e815e20670f91b2066b899a2056389982055e81971f45a8e961b52a83844a8,
   0x3647fc5866ebbab6816d205b0816ba05aa81aa206a681a9206a189a72069af726206966d651b59281a41f58e81632058881612057e815e20670f91b2066b899a2056389982055e81971f45a8f561b52a86844a8,
   0x3647fc5866ebbab6816d205b0816ba05aa81aa206a681a9206a189a72069af726206966d651b59281a41f58e81632058881612057e815e20670f91b2066b899a2056389982055e81971f45a92d61b52a87c44a8,
   0x3647fc5866ebbab6816d205b0816ba05aa81aa206a681a9206a189a72069af726206966d651b59281a41f58e81632058881612057e815e20670f91b2066b899a2056389982055e81971f45a93161b52a89844a8,
   0x3647fc5866ebbab6816d205b0816ba05aa81aa206a681a9206a189a72069af726206966d651b59281a41f58e81632058881612057e815e20670f91b2066b899a2056389982055e81971f45a93561b52a8a044a8,
   0x3647fc5866ebbab6816d205b0816ba05aa81aa206a681a9206a189a72069af726206966d651b59281a41f58e81632058881612057e815e20670f91b2066b899a2056389982055e81971f45a93961b52a8a444a8,
   0xd91ff1619baeeada05b4816c205ae816aa06a881a9a06a481a86189c81a6bdd9881a59af946be4a06907ca3a058c816220584815fa0578819c3e46c819ae18688158e18608157a065c7c56b58586bc44a8,
   0xe535b8d05d91e6ebba8a59e19678059c99672459c3968091e01d27,
   0x3647fc589eebbab6816d205b0816ba05aa81aa206a681a9206a186272069af766206966be51af9281a41f58e81632058881612057e815e20670f91b2066b861a2056386182055e81971f45ac1961af2a83844a8,
   0x3647fc589eebbab6816d205b0816ba05aa81aa206a681a9206a186272069af766206966be51af9281a41f58e81632058881612057e815e20670f91b2066b861a2056386182055e81971f45ac2561af2a86844a8,
   0x3647fc589eebbab6816d205b0816ba05aa81aa206a681a9206a186272069af766206966be51af9281a41f58e81632058881612057e815e20670f91b2066b861a2056386182055e81971f45ac5d61af2a87c44a8,
   0x3647fc589eebbab6816d205b0816ba05aa81aa206a681a9206a186272069af766206966be51af9281a41f58e81632058881612057e815e20670f91b2066b861a2056386182055e81971f45ac6161af2a89844a8,
   0x3647fc589eebbab6816d205b0816ba05aa81aa206a681a9206a186272069af766206966be51af9281a41f58e81632058881612057e815e20670f91b2066b861a2056386182055e81971f45ac6561af2a8a044a8,
   0x3647fc589eebbab6816d205b0816ba05aa81aa206a681a9206a186272069af766206966be51af9281a41f58e81632058881612057e815e20670f91b2066b861a2056386182055e81971f45ac6961af2a8a444a8,
   0xd91ff1627baeeada05b4816c205ae816aa06a881a9a06a481a86189c81a6bdd9881a59af946be4a06907ca3a058c816220584815fa0578819c3e46c819ae18688158e18608157a065c7c56b58586bc44a8,
   0xe535b8d05d91e6ebba8a59e19678059c99672459c3968091e01d27,
   0x364b9c58eaebbab6986d261b0986ba61aa98ea263a698e9263a18e672639af7a62639678651e19298e42548e98632618898612617e985e26370f85b2636b8e5a261638e582615e98d72535aae961e12a9b44477,
   0x3647fc5866ebbab6816d205b0816ba05ad8baaa06a881a9a06a481a86269c81a6bdc9881a59b5946d64a06907d63a058c816220584815fa0578819c3e46c819ae26688158e26608157a065c7d16b1e586d444a8,
   0x364b9c58eaebbab6986d261b0986ba61aa98ea263a698e9263a18e672639af7a62639678651e19298e42548e98632618898612617e985e26370f85b2636b8e5a261638e582615e98d72535aaf561e12a9e84477,
   0x3647fc5866ebbab6816d205b0816ba05ad886aa06a881a9a06a481a86269c81a6bdc9881a59b5946d64a06907d63a058c816220584815fa0578819c3e46c819ae26688158e26608157a065c7d16b02586d444a8],
  [0x364b9c58eaebbab6986d261b0986ba61aa98ea263a698e9263a18e672639af7a62639678651e19298e42548e98632618898612617e985e26370f85b2636b8e5a261638e582615e98d72535ab2d61e12aa344477,
   0x364b9c58eaebbab6986d261b0986ba61aa98ea263a698e9263a18e672639af7a62639678651e19298e42548e98632618898612617e985e26370f85b2636b8e5a261638e582615e98d72535ab3161e12aa504477,
   0x364b9c58eaebbab6986d261b0986ba61aa98ea263a698e9263a18e672639af7a62639678651e19298e42548e98632618898612617e985e26370f85b2636b8e5a261638e582615e98d72535ab3561e12aa5c4477,
   0x364b9c58eaebbab6986d261b0986ba61aa98ea263a698e9263a18e672639af7a62639678651e19298e42548e98632618898612617e985e26370f85b2636b8e5a261638e582615e98d72535ab3961e12aa644477,
   0x3647fc5866ebbab6816d205b0816ba05ad892aa06a881a9a06a481a86269c81a6bdc9881a59b5946d64a06907d63a058c816220584815fa0578819c3e46c819ae26688158e26608157a065c7d16b04586d444a8,
   0xd92e7163abaeeada61b4986c261ae986aa06a881a9a06a481a86189c81a6bdd9881a59d1947464a06908da3a618c986226184985fa6178819c3e46c819ae18689858e18609857a065c8d56b57587444477,
   0x3647fc5906ebbab6816d205b0816ba05aa81aa206a681a9206a191a72069af7e6206967c251f09281a41f58e81632058881612057e815e20670f91b2066b919a2056391982055e81971f45acd561f02a83844a8,
   0x3647fc5906ebbab6816d205b0816ba05aa81aa206a681a9206a191a72069af7e6206967c251f09281a41f58e81632058881612057e815e20670f91b2066b919a2056391982055e81971f45ace161f02a86844a8,
   0x3647fc5906ebbab6816d205b0816ba05aa81aa206a681a9206a191a72069af7e6206967c251f09281a41f58e81632058881612057e815e20670f91b2066b919a2056391982055e81971f45ad1961f02a87c44a8,
   0x3647fc5906ebbab6816d205b0816ba05aa81aa206a681a9206a191a72069af7e6206967c251f09281a41f58e81632058881612057e815e20670f91b2066b919a2056391982055e81971f45ad1d61f02a89844a8,
   0x3647fc5906ebbab6816d205b0816ba05aa81aa206a681a9206a191a72069af7e6206967c251f09281a41f58e81632058881612057e815e20670f91b2066b919a2056391982055e81971f45ad2161f02a8a044a8,
   0x3647fc5906ebbab6816d205b0816ba05aa81aa206a681a9206a191a72069af7e6206967c251f09281a41f58e81632058881612057e815e20670f91b2066b919a2056391982055e81971f45ad2561f02a8a444a8,
   0xd91ff1641baeeada05b4816c205ae816aa06a881a9a06a481a86189c81a6bdd9881a59af946be4a06907ca3a058c816220584815fa0578819c3e46c819ae18688158e18608157a065c7c56b58586bc44a8,
   0xd92e715e0baeeada61b4986c261ae986aa63a898e9a63a498e85df9c98e6bd29898e59d9947664a63909523a618c986226184985fa617898dc3e16c98daddf689858ddf609857a635c94d6a55587644477,
   0xd92e715e0baeeada61b4986c261ae986aa63a898e9a63a498e85df9c98e6bd29898e59d9947664a63909523a618c986226184985fa617898dc3e16c98daddf689858ddf609857a635c94d6a58587644477,
   0xd92e715e0baeeada61b4986c261ae986aa63a898e9a63a498e85df9c98e6bd29898e59d9947664a63909523a618c986226184985fa617898dc3e16c98daddf689858ddf609857a635c94d6a59587644477,
   0xd92e715e0baeeada61b4986c261ae986aa63a898e9a63a498e85df9c98e6bd29898e59d9947664a63909523a618c986226184985fa617898dc3e16c98daddf689858ddf609857a635c94d6a6c587644477,
   0xd91ff1619baeeada05b4816c205ae816aa06a881a9a06a481a84889c81a6bdc9881a59e29478a4a06907d63a058c816220584815fa0578819c3e46c819ac88688158c88608157a065c7d16ad7586d444a8,
   0xd91ff1627baeeada05b4816c205ae816aa06a881a9a06a481a84709c81a6bdd9881a59e0947824a06907d63a058c816220584815fa0578819c3e46c819ac70688158c70608157a065c7d16b58586bc44a8,
   0xd92e715e0baeeada61b4986c261ae986aa63a898e9a63a498e85df9c98e6bd29898e59d9947664a63909523a618c986226184985fa617898dc3e16c98daddf689858ddf609857a635c94d6a71587644477,
   0xd91ff1627baeeada05b4816c205ae816aa06a881a9a06a481a86189c81a6bdd9881a59af946be4a06907d63a058c816220584815fa0578819c3e46c819ae18688158e18608157a065c7d16b4d586bc44a8,
   0xd92e715e0baeeada61b4986c261ae986aa63a898e9a63a498e85df9c98e6bd29898e59d9947664a63909523a618c986226184985fa617898dc3e16c98daddf689858ddf609857a635c94d6a79587644477,
   0xd92e715e0baeeada61b4986c261ae986aa63a898e9a63a498e85df9c98e6bd29898e59d9947664a63909523a618c986226184985fa617898dc3e16c98daddf689858ddf609857a635c94d6a7c587644477,
   0xd91ff1627baeeada05b4816c205ae816aa06a881a9a06a481a86189c81a6bdd9881a59af946be4a06907d63a058c816220584815fa0578819c3e46c819ae18688158e18608157a065c7d16b4e586bc44a8,
   0xd92e715e0baeeada61b4986c261ae986aa63a898e9a63a498e85df9c98e6bd29898e59d9947664a63909523a618c986226184985fa617898dc3e16c98daddf689858ddf609857a635c94d6a7e587644477,
   0xd92e715e0baeeada61b4986c261ae986aa63a898e9a63a498e85df9c98e6bd29898e59d9947664a63909523a618c986226184985fa617898dc3e16c98daddf689858ddf609857a635c94d6ae9587644477,
   0xd92e715e0baeeada61b4986c261ae986aa63a898e9a63a498e85df9c98e6bd29898e59d9947664a63909523a618c986226184985fa617898dc3e16c98daddf689858ddf609857a635c94d6a7f587644477,
   0xd92e715e0baeeada61b4986c261ae986aa63a898e9a63a498e85df9c98e6bd29898e59d9947664a63909523a618c986226184985fa617898dc3e16c98daddf689858ddf609857a635c94d6a80587644477,
   0xd92e715e0baeeada61b4986c261ae986aa63a898e9a63a498e85df9c98e6bd29898e59d9947664a63909523a618c986226184985fa617898dc3e16c98daddf689858ddf609857a635c94d6a81587644477,
   0xd92e715e0baeeada61b4986c261ae986aa63a898e9a63a498e85df9c98e6bd29898e59d9947664a63909523a618c986226184985fa617898dc3e16c98daddf689858ddf609857a635c94d6a82587644477,
   0xd92e715e0baeeada61b4986c261ae986aa63a898e9a63a498e85df9c98e6bd29898e59d9947664a63909523a618c986226184985fa617898dc3e16c98daddf689858ddf609857a635c94d6a83587644477,
   0xd92e715e0baeeada61b4986c261ae986aa63a898e9a63a498e85df9c98e6bd29898e59d9947664a63909523a618c986226184985fa617898dc3e16c98daddf689858ddf609857a635c94d6a84587644477,
   0xd92e715e0baeeada61b4986c261ae986aa63a898e9a63a498e85df9c98e6bd29898e59d9947664a63909523a618c986226184985fa617898dc3e16c98daddf689858ddf609857a635c94d6a85587644477,
   0xd92e715e0baeeada61b4986c261ae986aa63a898e9a63a498e85df9c98e6bd29898e59d9947664a63909523a618c986226184985fa617898dc3e16c98daddf689858ddf609857a635c94d6a86587644477,
   0xd92e715e0baeeada61b4986c261ae986aa63a898e9a63a498e85df9c98e6bd29898e59d9947664a63909523a618c986226184985fa617898dc3e16c98daddf689858ddf609857a635c94d6a87587644477,
   0xd92e715e0baeeada61b4986c261ae986aa63a898e9a63a498e85df9c98e6bd29898e59d9947664a63909523a618c986226184985fa617898dc3e16c98daddf689858ddf609857a635c94d6a88587644477,
   0xd92e715e0baeeada61b4986c261ae986aa63a898e9a63a498e85df9c98e6bd29898e59d9947664a63909523a618c986226184985fa617898dc3e16c98daddf689858ddf609857a635c94d6a8c587644477,
   0xd92e715e0baeeada61b4986c261ae986aa63a898e9a63a498e85df9c98e6bd29898e59d9947664a63909523a618c986226184985fa617898dc3e16c98daddf689858ddf609857a635c94d6ad9587644477,
   0xd91ff1619baeeada05b4816c205ae816aa06a881a9a06a481a86269c81a6bdc9881a59b5946d64a06907d63a058c816220584815fa0578819c3e46c819ae26688158e26608157a065c7d16b4f586d444a8,
   0xd92e715e0baeeada61b4986c261ae986aa63a898e9a63a498e85df9c98e6bd29898e59d9947664a63909523a618c986226184985fa617898dc3e16c98daddf689858ddf609857a635c94d6adb587644477],
  [0xd92e715e0baeeada61b4986c261ae986aa63a898e9a63a498e85df9c98e6bd29898e59d9947664a63909523a618c986226184985fa617898dc3e16c98daddf689858ddf609857a635c94d6adc587644477,
   0xd92e715e0baeeada61b4986c261ae986aa63a898e9a63a498e85df9c98e6bd29898e59d9947664a63909523a618c986226184985fa617898dc3e16c98daddf689858ddf609857a635c94d6aec587644477,
   0xd91ff1619baeeada05b4816c205ae816aa06a881a9a06a481a86269c81a6bdc9881a59b5946d64a06907d63a058c816220584815fa0578819c3e46c819ae26688158e26608157a065c7d16add586d444a8,
   0xd91ff1619baeeada05b4816c205ae816aa06a881a9a06a481a86269c81a6bdc9881a59b5946d64a06907d63a058c816220584815fa0578819c3e46c819ae26688158e26608157a065c7d16ad7586d444a8,
   0xd91ff1619baeeada05b4816c205ae816aa06a881a9a06a481a86269c81a6bdc9881a59b5946d64a06907d63a058c816220584815fa0578819c3e46c819ae26688158e26608157a065c7d16b2b586d444a8,
   0xd91ff1619baeeada05b4816c205ae816aa06a881a9a06a481a86269c81a6bdc9881a59b5946d64a06907d63a058c816220584815fa0578819c3e46c819ae26688158e26608157a065c7d16b2c586d444a8,
   0xd92e715e0baeeada61b4986c261ae986aa63a898e9a63a498e85df9c98e6bd29898e59d9947664a63909523a618c986226184985fa617898dc3e16c98daddf689858ddf609857a635c94d6aa2587644477,
   0xd91ff1619baeeada05b4816c205ae816aa06a881a9a06a481a86269c81a6bdc9881a59b5946d64a06907d63a058c816220584815fa0578819c3e46c819ae26688158e26608157a065c7d16b29586d444a8,
   0xd91ff1619baeeada05b4816c205ae816aa06a881a9a06a481a86269c81a6bdc9881a59b5946d64a06907d63a058c816220584815fa0578819c3e46c819ae26688158e26608157a065c7d169f7586d444a8,
   0xd91ff1619baeeada05b4816c205ae816aa06a881a9a06a481a86269c81a6bdc9881a59b5946d64a06907d63a058c816220584815fa0578819c3e46c819ae26688158e26608157a065c7d169f8586d444a8,
   0xd91ff1619baeeada05b4816c205ae816aa06a881a9a06a481a86269c81a6bdc9881a59b5946d64a06907d63a058c816220584815fa0578819c3e46c819ae26688158e26608157a065c7d16a39586d444a8,
   0xd91ff1619baeeada05b4816c205ae816aa06a881a9a06a481a86269c81a6bdc9881a59b5946d64a06907d63a058c816220584815fa0578819c3e46c819ae26688158e26608157a065c7d16a3b586d444a8,
   0xd91ff1619baeeada05b4816c205ae816aa06a881a9a06a481a86269c81a6bdc9881a59b5946d64a06907d63a058c816220584815fa0578819c3e46c819ae26688158e26608157a065c7d16a3c586d444a8,
   0xd91ff1619baeeada05b4816c205ae816aa06a881a9a06a481a86269c81a6bdc9881a59b5946d64a06907d63a058c816220584815fa0578819c3e46c819ae26688158e26608157a065c7d16a3e586d444a8,
   0xd91ff1619baeeada05b4816c205ae816aa06a881a9a06a481a86269c81a6bdc9881a59b5946d64a06907d63a058c816220584815fa0578819c3e46c819ae26688158e26608157a065c7d16a3f586d444a8,
   0xd91ff1619baeeada05b4816c205ae816aa06a881a9a06a481a86269c81a6bdc9881a59b5946d64a06907d63a058c816220584815fa0578819c3e46c819ae26688158e26608157a065c7d16a5e586d444a8,
   0xd91ff1619baeeada05b4816c205ae816aa06a881a9a06a481a86269c81a6bdc9881a59b5946d64a06907d63a058c816220584815fa0578819c3e46c819ae26688158e26608157a065c7d16a40586d444a8,
   0xd91ff1619baeeada05b4816c205ae816aa06a881a9a06a481a86269c81a6bdc9881a59b5946d64a06907d63a058c816220584815fa0578819c3e46c819ae26688158e26608157a065c7d16a41586d444a8,
   0xd91ff1619baeeada05b4816c205ae816aa06a881a9a06a481a86269c81a6bdc9881a59b5946d64a06907d63a058c816220584815fa0578819c3e46c819ae26688158e26608157a065c7d16a42586d444a8,
   0xd91ff1619baeeada05b4816c205ae816aa06a881a9a06a481a86269c81a6bdc9881a59b5946d64a06907d63a058c816220584815fa0578819c3e46c819ae26688158e26608157a065c7d16a43586d444a8,
   0xd91ff1619baeeada05b4816c205ae816aa06a881a9a06a481a86269c81a6bdc9881a59b5946d64a06907d63a058c816220584815fa0578819c3e46c819ae26688158e26608157a065c7d16a44586d444a8,
   0xd91ff1619baeeada05b4816c205ae816aa06a881a9a06a481a86269c81a6bdc9881a59b5946d64a06907d63a058c816220584815fa0578819c3e46c819ae26688158e26608157a065c7d16a45586d444a8,
   0xd91ff1619baeeada05b4816c205ae816aa06a881a9a06a481a86269c81a6bdc9881a59b5946d64a06907d63a058c816220584815fa0578819c3e46c819ae26688158e26608157a065c7d16a46586d444a8,
   0xd91ff1619baeeada05b4816c205ae816aa06a881a9a06a481a86269c81a6bdc9881a59b5946d64a06907d63a058c816220584815fa0578819c3e46c819ae26688158e26608157a065c7d16a47586d444a8,
   0xd91ff1619baeeada05b4816c205ae816aa06a881a9a06a481a86269c81a6bdc9881a59b5946d64a06907d63a058c816220584815fa0578819c3e46c819ae26688158e26608157a065c7d16a48586d444a8,
   0xd91ff1619baeeada05b4816c205ae816aa06a881a9a06a481a86269c81a6bdc9881a59b5946d64a06907d63a058c816220584815fa0578819c3e46c819ae26688158e26608157a065c7d16a49586d444a8,
   0xd91ff1619baeeada05b4816c205ae816aa06a881a9a06a481a86269c81a6bdc9881a59b5946d64a06907d63a058c816220584815fa0578819c3e46c819ae26688158e26608157a065c7d16a4a586d444a8,
   0xd91ff1641baeeada05b4816c205ae816aa06a881a9a06a481a86469c81a6bdf9881a59f0947c24a06907d63a058c816220584815fa0578819c3e46c819ae46688158e46608157a065c7d16b50587c044a8,
   0xd91ff1619baeeada05b4816c205ae816aa06a881a9a06a481a86269c81a6bdc9881a59b5946d64a06907d63a058c816220584815fa0578819c3e46c819ae26688158e26608157a065c7d16a4f586d444a8,
   0xd91ff1619baeeada05b4816c205ae816aa06a881a9a06a481a86269c81a6bdc9881a59b5946d64a06907d63a058c816220584815fa0578819c3e46c819ae26688158e26608157a065c7d169f6586d444a8,
   0xd92e7163abaeeada61b4986c261ae986aa63a898e9a63a498e86399c98e6bde9898e59e1947864a63909523a618c986226184985fa617898dc3e16c98dae39689858e39609857a635c94d6ade587844477,
   0xd91ff1627baeeada05b4816c205ae816aa06a881a9a06a481a86189c81a6bdd9881a59af946be4a06907d63a058c816220584815fa0578819c3e46c819ae18688158e18608157a065c7d169f7586bc44a8,
   0xd91ff1627baeeada05b4816c205ae816aa06a881a9a06a481a86189c81a6bdd9881a59af946be4a06907d63a058c816220584815fa0578819c3e46c819ae18688158e18608157a065c7d169f8586bc44a8,
   0xd91ff1627baeeada05b4816c205ae816aa06a881a9a06a481a86189c81a6bdd9881a59af946be4a06907d63a058c816220584815fa0578819c3e46c819ae18688158e18608157a065c7d16b05586bc44a8,
   0xd91ff1627baeeada05b4816c205ae816aa06a881a9a06a481a86189c81a6bdd9881a59af946be4a06907d63a058c816220584815fa0578819c3e46c819ae18688158e18608157a065c7d16b07586bc44a8,
   0xd91ff1627baeeada05b4816c205ae816aa06a881a9a06a481a86189c81a6bdd9881a59af946be4a06907d63a058c816220584815fa0578819c3e46c819ae18688158e18608157a065c7d16b08586bc44a8,
   0xd91ff1627baeeada05b4816c205ae816aa06a881a9a06a481a86189c81a6bdd9881a59af946be4a06907d63a058c816220584815fa0578819c3e46c819ae18688158e18608157a065c7d16b0a586bc44a8,
   0xd91ff1627baeeada05b4816c205ae816aa06a881a9a06a481a86189c81a6bdd9881a59af946be4a06907d63a058c816220584815fa0578819c3e46c819ae18688158e18608157a065c7d16b0b586bc44a8,
   0xd91ff1627baeeada05b4816c205ae816aa06a881a9a06a481a86189c81a6bdd9881a59af946be4a06907d63a058c816220584815fa0578819c3e46c819ae18688158e18608157a065c7d16b0c586bc44a8,
   0xd91ff1627baeeada05b4816c205ae816aa06a881a9a06a481a86189c81a6bdd9881a59af946be4a06907d63a058c816220584815fa0578819c3e46c819ae18688158e18608157a065c7d16b0d586bc44a8],
  [0xd91ff1627baeeada05b4816c205ae816aa06a881a9a06a481a86189c81a6bdd9881a59af946be4a06907d63a058c816220584815fa0578819c3e46c819ae18688158e18608157a065c7d16b0e586bc44a8,
   0xd91ff1627baeeada05b4816c205ae816aa06a881a9a06a481a86189c81a6bdd9881a59af946be4a06907d63a058c816220584815fa0578819c3e46c819ae18688158e18608157a065c7d16b0f586bc44a8,
   0xd91ff1627baeeada05b4816c205ae816aa06a881a9a06a481a86189c81a6bdd9881a59af946be4a06907d63a058c816220584815fa0578819c3e46c819ae18688158e18608157a065c7d16b10586bc44a8,
   0xd91ff1627baeeada05b4816c205ae816aa06a881a9a06a481a86189c81a6bdd9881a59af946be4a06907d63a058c816220584815fa0578819c3e46c819ae18688158e18608157a065c7d16b11586bc44a8,
   0xd91ff1627baeeada05b4816c205ae816aa06a881a9a06a481a86189c81a6bdd9881a59af946be4a06907d63a058c816220584815fa0578819c3e46c819ae18688158e18608157a065c7d16b12586bc44a8,
   0xd91ff1627baeeada05b4816c205ae816aa06a881a9a06a481a86189c81a6bdd9881a59af946be4a06907d63a058c816220584815fa0578819c3e46c819ae18688158e18608157a065c7d16b13586bc44a8,
   0xd91ff1627baeeada05b4816c205ae816aa06a881a9a06a481a86189c81a6bdd9881a59af946be4a06907d63a058c816220584815fa0578819c3e46c819ae18688158e18608157a065c7d16b14586bc44a8,
   0xd91ff1627baeeada05b4816c205ae816aa06a881a9a06a481a86189c81a6bdd9881a59af946be4a06907d63a058c816220584815fa0578819c3e46c819ae18688158e18608157a065c7d16b15586bc44a8,
   0xd91ff1627baeeada05b4816c205ae816aa06a881a9a06a481a86189c81a6bdd9881a59af946be4a06907d63a058c816220584815fa0578819c3e46c819ae18688158e18608157a065c7d16b16586bc44a8,
   0xd91ff1627baeeada05b4816c205ae816aa06a881a9a06a481a86189c81a6bdd9881a59af946be4a06907d63a058c816220584815fa0578819c3e46c819ae18688158e18608157a065c7d16b1b586bc44a8,
   0xd91ff1627baeeada05b4816c205ae816aa06a881a9a06a481a86189c81a6bdd9881a59af946be4a06907d63a058c816220584815fa0578819c3e46c819ae18688158e18608157a065c7d169f6586bc44a8,
   0xd92e7163abaeeada61b4986c261ae986aa63a898e9a63a498e86399c98e6bde9898e59e1947864a63909523a618c986226184985fa617898dc3e16c98dae39689858e39609857a635c94d6a59587844477,
   0xd92e7163abaeeada61b4986c261ae986aa63a898e9a63a498e86399c98e6bde9898e59e1947864a63909523a618c986226184985fa617898dc3e16c98dae39689858e39609857a635c94d6ab9587844477,
   0xd92e7163abaeeada61b4986c261ae986aa63a898e9a63a498e86399c98e6bde9898e59e1947864a63909523a618c986226184985fa617898dc3e16c98dae39689858e39609857a635c94d6abb587844477,
   0xd92e7163abaeeada61b4986c261ae986aa63a898e9a63a498e86399c98e6bde9898e59e1947864a63909523a618c986226184985fa617898dc3e16c98dae39689858e39609857a635c94d6abc587844477,
   0xd92e7163abaeeada61b4986c261ae986aa63a898e9a63a498e86399c98e6bde9898e59e1947864a63909523a618c986226184985fa617898dc3e16c98dae39689858e39609857a635c94d6abe587844477,
   0xd91ff1627baeeada05b4816c205ae816aa06a881a9a06a481a86189c81a6bdd9881a59af946be4a06907d63a058c816220584815fa0578819c3e46c819ae18688158e18608157a065c7d16b51586bc44a8,
   0xd92e7163abaeeada61b4986c261ae986aa63a898e9a63a498e86399c98e6bde9898e59e1947864a63909523a618c986226184985fa617898dc3e16c98dae39689858e39609857a635c94d6abf587844477,
   0xd92e7163abaeeada61b4986c261ae986aa63a898e9a63a498e86399c98e6bde9898e59e1947864a63909523a618c986226184985fa617898dc3e16c98dae39689858e39609857a635c94d6ac0587844477,
   0xd92e7163abaeeada61b4986c261ae986aa63a898e9a63a498e86399c98e6bde9898e59e1947864a63909523a618c986226184985fa617898dc3e16c98dae39689858e39609857a635c94d6ac1587844477,
   0xd92e7163abaeeada61b4986c261ae986aa63a898e9a63a498e86399c98e6bde9898e59e1947864a63909523a618c986226184985fa617898dc3e16c98dae39689858e39609857a635c94d6ac2587844477,
   0xd92e7163abaeeada61b4986c261ae986aa63a898e9a63a498e86399c98e6bde9898e59e1947864a63909523a618c986226184985fa617898dc3e16c98dae39689858e39609857a635c94d6ac3587844477,
   0xd92e7163abaeeada61b4986c261ae986aa63a898e9a63a498e86399c98e6bde9898e59e1947864a63909523a618c986226184985fa617898dc3e16c98dae39689858e39609857a635c94d6ac4587844477,
   0xd92e7163abaeeada61b4986c261ae986aa63a898e9a63a498e86399c98e6bde9898e59e1947864a63909523a618c986226184985fa617898dc3e16c98dae39689858e39609857a635c94d6ac5587844477,
   0xd92e7163abaeeada61b4986c261ae986aa63a898e9a63a498e86399c98e6bde9898e59e1947864a63909523a618c986226184985fa617898dc3e16c98dae39689858e39609857a635c94d6ac6587844477,
   0xd92e7163abaeeada61b4986c261ae986aa63a898e9a63a498e86399c98e6bde9898e59e1947864a63909523a618c986226184985fa617898dc3e16c98dae39689858e39609857a635c94d6ac7587844477,
   0xd92e7163abaeeada61b4986c261ae986aa63a898e9a63a498e86399c98e6bde9898e59e1947864a63909523a618c986226184985fa617898dc3e16c98dae39689858e39609857a635c94d6ac8587844477,
   0xd92e7163abaeeada61b4986c261ae986aa63a898e9a63a498e86399c98e6bde9898e59e1947864a63909523a618c986226184985fa617898dc3e16c98dae39689858e39609857a635c94d6ac9587844477,
   0xd92e7163abaeeada61b4986c261ae986aa63a898e9a63a498e86399c98e6bde9898e59e1947864a63909523a618c986226184985fa617898dc3e16c98dae39689858e39609857a635c94d6aca587844477,
   0xd91ff1619baeeada05b4816c205ae816aa06a881a9a06a481a86269c81a6bdc9881a59b5946d64a06907d63a058c816220584815fa0578819c3e46c819ae26688158e26608157a065c7d16b52586d444a8,
   0xd92e7163abaeeada61b4986c261ae986aa63a898e9a63a498e86399c98e6bde9898e59e1947864a63909523a618c986226184985fa617898dc3e16c98dae39689858e39609857a635c94d6acf587844477,
   0xd91ff1627baeeada05b4816c205ae816aa06a881a9a06a481a86189c81a6bdd9881a59af946be4a06907d63a058c816220584815fa0578819c3e46c819ae18688158e18608157a065c7d16b53586bc44a8,
   0xd92e7163abaeeada61b4986c261ae986aa63a898e9a63a498e86399c98e6bde9898e59e1947864a63909523a618c986226184985fa617898dc3e16c98dae39689858e39609857a635c94d6a55587844477,
   0xd92e7163abaeeada61b4986c261ae986aa63a898e9a63a498e86399c98e6bde9898e59e1947864a63909523a618c986226184985fa617898dc3e16c98dae39689858e39609857a635c94d6a58587844477,
   0xd91ff1641baeeada05b4816c205ae816aa06a881a9a06a481a86469c81a6bdf9881a59f0947c24a06907d63a058c816220584815fa0578819c3e46c819ae46688158e46608157a065c7d169f7587c044a8,
   0xd91ff1641baeeada05b4816c205ae816aa06a881a9a06a481a86469c81a6bdf9881a59f0947c24a06907d63a058c816220584815fa0578819c3e46c819ae46688158e46608157a065c7d169f8587c044a8,
   0xd91ff1641baeeada05b4816c205ae816aa06a881a9a06a481a86469c81a6bdf9881a59f0947c24a06907d63a058c816220584815fa0578819c3e46c819ae46688158e46608157a065c7d16b34587c044a8,
   0xd91ff1641baeeada05b4816c205ae816aa06a881a9a06a481a86469c81a6bdf9881a59f0947c24a06907d63a058c816220584815fa0578819c3e46c819ae46688158e46608157a065c7d16b36587c044a8,
   0xd91ff1641baeeada05b4816c205ae816aa06a881a9a06a481a86469c81a6bdf9881a59f0947c24a06907d63a058c816220584815fa0578819c3e46c819ae46688158e46608157a065c7d16b37587c044a8,
   0xd91ff1641baeeada05b4816c205ae816aa06a881a9a06a481a86469c81a6bdf9881a59f0947c24a06907d63a058c816220584815fa0578819c3e46c819ae46688158e46608157a065c7d16b39587c044a8],
  [0xd91ff1641baeeada05b4816c205ae816aa06a881a9a06a481a86469c81a6bdf9881a59f0947c24a06907d63a058c816220584815fa0578819c3e46c819ae46688158e46608157a065c7d16b3a587c044a8,
   0xd91ff1641baeeada05b4816c205ae816aa06a881a9a06a481a86469c81a6bdf9881a59f0947c24a06907d63a058c816220584815fa0578819c3e46c819ae46688158e46608157a065c7d16b3b587c044a8,
   0xd91ff1641baeeada05b4816c205ae816aa06a881a9a06a481a86469c81a6bdf9881a59f0947c24a06907d63a058c816220584815fa0578819c3e46c819ae46688158e46608157a065c7d16b3c587c044a8,
   0xd91ff1641baeeada05b4816c205ae816aa06a881a9a06a481a86469c81a6bdf9881a59f0947c24a06907d63a058c816220584815fa0578819c3e46c819ae46688158e46608157a065c7d16b3d587c044a8,
   0xd91ff1641baeeada05b4816c205ae816aa06a881a9a06a481a86469c81a6bdf9881a59f0947c24a06907d63a058c816220584815fa0578819c3e46c819ae46688158e46608157a065c7d16b3e587c044a8,
   0xd91ff1641baeeada05b4816c205ae816aa06a881a9a06a481a86469c81a6bdf9881a59f0947c24a06907d63a058c816220584815fa0578819c3e46c819ae46688158e46608157a065c7d16b3f587c044a8,
   0xd91ff1641baeeada05b4816c205ae816aa06a881a9a06a481a86469c81a6bdf9881a59f0947c24a06907d63a058c816220584815fa0578819c3e46c819ae46688158e46608157a065c7d16b40587c044a8,
   0xd91ff1641baeeada05b4816c205ae816aa06a881a9a06a481a86469c81a6bdf9881a59f0947c24a06907d63a058c816220584815fa0578819c3e46c819ae46688158e46608157a065c7d16b41587c044a8,
   0xd91ff1641baeeada05b4816c205ae816aa06a881a9a06a481a86469c81a6bdf9881a59f0947c24a06907d63a058c816220584815fa0578819c3e46c819ae46688158e46608157a065c7d16b42587c044a8,
   0xd91ff1641baeeada05b4816c205ae816aa06a881a9a06a481a86469c81a6bdf9881a59f0947c24a06907d63a058c816220584815fa0578819c3e46c819ae46688158e46608157a065c7d16b43587c044a8,
   0xd91ff1641baeeada05b4816c205ae816aa06a881a9a06a481a86469c81a6bdf9881a59f0947c24a06907d63a058c816220584815fa0578819c3e46c819ae46688158e46608157a065c7d16b44587c044a8,
   0xd91ff1641baeeada05b4816c205ae816aa06a881a9a06a481a86469c81a6bdf9881a59f0947c24a06907d63a058c816220584815fa0578819c3e46c819ae46688158e46608157a065c7d16b45587c044a8,
   0xd91ff1641baeeada05b4816c205ae816aa06a881a9a06a481a86469c81a6bdf9881a59f0947c24a06907d63a058c816220584815fa0578819c3e46c819ae46688158e46608157a065c7d16b4a587c044a8,
   0xd91ff1641baeeada05b4816c205ae816aa06a881a9a06a481a86469c81a6bdf9881a59f0947c24a06907d63a058c816220584815fa0578819c3e46c819ae46688158e46608157a065c7d169f6587c044a8,
   0xd91ff1627baeeada05b4816c205ae816aa06a881a9a06a481a86189c81a6bdd9881a59af946be4a06907d63a058c816220584815fa0578819c3e46c819ae18688158e18608157a065c7d16b55586bc44a8,
   0xd91ff1627baeeada05b4816c205ae816aa06a881a9a06a481a86189c81a6bdd9881a59af946be4a06907d63a058c816220584815fa0578819c3e46c819ae18688158e18608157a065c7d16b54586bc44a8,
   0xd91e6ebba8a59e19678059c99672459c3968091e01d27,
   0xe535b8cd5d54e74d39c57aebd39,
   0xe535b8d05d54e74d39c57aebd39,
   0xe535b8d05d54e74d39c57aebd39,
   0xd91e6ebba8a59e19678059c99672459c3968091e01d27,
   0x394d6e33575539d34e6bd39,
   0x394d6e33575539d34e6bd39,
   0x394d6e34175539d34e6bd39,
   0x394d6e34175539d34e6bd39,
   0x394d6e34175539d34e6bd39,
   0x394d6e34175539d34e6bd39,
   0x0,
   0x0,
   0x3161e,
   0x3161e,
   0x0,
   0x0,
   0x315eb,
   0xe535b8cd5a10fdac3f630fca47c,
   0x3161e,
   0x315eb,
   0x565e55149,
   0x3162b,
   0x315eb],
  [0x3162b,
   0xe535b8d05a10fdac3f630fca47c,
   0xe535b8d05a10fdac3f630fca47c,
   0x315eb,
   0x3163d,
   0x3163d,
   0x3161e,
   0x3161e,
   0x315eb,
   0x1598b,
   0x3161e,
   0x3162b,
   0x315eb,
   0xa10fdac3f630fca47c,
   0x0,
   0xb187,
   0x0,
   0x0,
   0x0,
   0x0,
   0x0,
   0x0,
   0x0,
   0x0,
   0x0,
   0x0,
   0x0,
   0x0,
   0x0,
   0x0,
   0x0,
   0x0,
   0x0,
   0x0,
   0xa10fdac3f630fca47c,
   0x3162b,
   0x31644,
   0x31644,
   0x0,
   0x0],
  [0x0,
   0x0,
   0x0,
   0x0,
   0x0,
   0x0,
   0x0,
   0x0,
   0x0,
   0x0,
   0x0,
   0x0,
   0x0,
   0x0,
   0xa104dac136304ca47c,
   0x0,
   0x0,
   0x0,
   0x0,
   0x0,
   0x0,
   0x0,
   0x0,
   0x0,
   0x0,
   0x0,
   0x0,
   0x0,
   0x0,
   0x0,
   0x0,
   0x0,
   0x0,
   0x0,
   0x0,
   0x0,
   0x0,
   0x0,
   0x0,
   0x0],
  [0x0,
   0x0,
   0x0,
   0x0,
   0x0,
   0x0,
   0x0,
   0x0,
   0x0,
   0x0,
   0x0,
   0x0,
   0x0,
   0x0,
   0x0,
   0x0,
   0x0,
   0x0,
   0x0,
   0x0,
   0xa10fdac3f630fca47c,
   0xe535b8cd5,
   0x0,
   0x0,
   0x0,
   0x0,
   0x0,
   0x0,
   0x0,
   0xe535b8d05,
   0xe535b8d05,
   0x0,
   0x284f96b3e58cf9,
   0x0,
   0x0,
   0x0,
   0x0,
   0x0,
   0x0,
   0x0],
  [0x0,
   0x0,
   0x0,
   0x0,
   0x0,
   0x0,
   0x0,
   0x0,
   0x0,
   0x0,
   0x0,
   0x0,
   0x0,
   0x0,
   0x0,
   0x0,
   0x0,
   0x0,
   0x0,
   0x0,
   0x0,
   0x0,
   0x0,
   0x0,
   0x0,
   0x0,
   0x0,
   0x0,
   0x0,
   0x0,
   0x0,
   0x0,
   0x0,
   0x0,
   0x0,
   0x0,
   0x0,
   0x0,
   0x0,
   0x0],
  [0x0,
   0x0,
   0x0,
   0x0,
   0x0,
   0x0,
   0x0,
   0x0,
   0x0,
   0x0,
   0x0,
   0x0,
   0x0,
   0x0,
   0x0,
   0x0,
   0x0,
   0xb885ec20c,
   0xb885ec20c,
   0x0,
   0x2c20c,
   0x2c20c,
   0x2e20a,
   0x2e20a,
   0x2e20a,
   0x0,
   0x0,
   0x0,
   0x0,
   0x0,
   0x0,
   0x0,
   0x0,
   0x0,
   0x0,
   0x0,
   0x0,
   0x0,
   0x0,
   0x0],
  [0x0,
   0x0,
   0x0,
   0x0,
   0x0,
   0x0,
   0x0,
   0x0,
   0x0,
   0x0,
   0x0,
   0x0,
   0x0,
   0x0,
   0x0,
   0x0,
   0x0,
   0x0,
   0x0,
   0x0,
   0x0,
   0x0,
   0x0,
   0x0,
   0x0,
   0x0,
   0x0,
   0x0,
   0x0,
   0x0,
   0x0,
   0x0,
   0x0,
   0x0,
   0x0,
   0x0,
   0x0,
   0x0,
   0x0,
   0x0],
  [0x0,
   0x0,
   0x0,
   0x0,
   0x0,
   0xb89dac26a,
   0xb89dac26a,
   0x0,
   0x2e20a,
   0x2e20a,
   0x2e20a,
   0x2e20a,
   0x2e20a,
   0x2e20a,
   0x2e20a,
   0x2e20a,
   0x2e20a,
   0x2e20a,
   0x2e20a,
   0x2e20a,
   0x2e20a,
   0x2e20a,
   0x2e20a,
   0x2e20a,
   0x2e20a,
   0x2e20a,
   0x2e20a,
   0x2e20a,
   0x2e20a,
   0x2e20a,
   0x2e20a,
   0x2e20a,
   0x0,
   0x0,
   0x0,
   0x2c26a,
   0x2c26a,
   0x2e268,
   0x0,
   0x0],
  [0x2e268,
   0x2e268,
   0x0,
   0x0,
   0x0,
   0x0,
   0x2e20a,
   0x0,
   0x0,
   0x0,
   0x0,
   0x0,
   0x0,
   0x2e268,
   0x0,
   0x0,
   0x0,
   0x0,
   0x0,
   0x0,
   0x2e268,
   0x0,
   0x2e268,
   0x0,
   0x0,
   0x2e268,
   0x0,
   0x0,
   0x0,
   0x0,
   0x0,
   0x0,
   0x0,
   0x2e268,
   0x0,
   0x2e268,
   0x2e268,
   0x0,
   0x2e268,
   0x2e268],
  [0x2e268,
   0x2e268,
   0x2e268,
   0x2e268,
   0x2e268,
   0x2e268,
   0x2e268,
   0x2e268,
   0x2e268,
   0x0,
   0x0,
   0x0,
   0x2e268,
   0x0,
   0x2e268,
   0x0,
   0x0,
   0x0,
   0x0,
   0x0,
   0x0,
   0x2e268,
   0x0,
   0x0,
   0x2e268,
   0x0,
   0x2e268,
   0x0,
   0x0,
   0x0,
   0x0,
   0x0,
   0x0,
   0x0,
   0x2e268,
   0x0,
   0x0,
   0x0,
   0x0,
   0x0],
  [0x0,
   0x0,
   0x0,
   0x0,
   0x0,
   0x0,
   0x0,
   0x0,
   0x0,
   0x0,
   0x0,
   0x0,
   0x0,
   0x0,
   0x0,
   0x0,
   0x0,
   0x2e268,
   0x2e268,
   0x2e268,
   0x2e268,
   0x2e268,
   0x2e268,
   0x2e268,
   0x2e268,
   0x2e268,
   0x2e268,
   0x2e268,
   0x2e268,
   0x2e268,
   0x2e268,
   0x2e268,
   0x2e268,
   0x2e268,
   0x2e268,
   0x2e268,
   0x2e268,
   0x2e268,
   0x2e268,
   0x2e268],
  [0x0,
   0x2e268,
   0xf3216e268,
   0x0,
   0xf3216e268,
   0xf3216e268,
   0x0,
   0x2e20a,
   0x0,
   0x2e268,
   0x0,
   0x2e268,
   0x2e268,
   0x2e20a,
   0x2e268,
   0x0,
   0x0,
   0x0,
   0xf305ee20a,
   0xe7392e20a,
   0xe7392e20a,
   0xf305ee20a,
   0x2e20a,
   0xf305ee20a,
   0xe73d6e20a,
   0x2e268,
   0xf305ee20a,
   0xf305ee20a,
   0x2e268,
   0xf305ee20a,
   0xf305ee20a,
   0xf305ee20a,
   0xf305ee20a,
   0xf305ee20a,
   0xf305ee20a,
   0xf305ee20a,
   0xf305ee20a,
   0xf305ee20a,
   0xf305ee20a,
   0xf305ee20a],
  [0xf305ee20a,
   0xf305ee20a,
   0xf305ee20a,
   0x0,
   0x0,
   0x0,
   0x0,
   0xf305ee20a,
   0xe7426e20a,
   0xe743ae20a,
   0xf305ee20a,
   0xf305ee20a,
   0xf305ee20a,
   0x2e20a,
   0x2e20a,
   0x2e20a,
   0x2e20a,
   0x2e20a,
   0x2e20a,
   0x2e20a,
   0x2e20a,
   0x2e20a,
   0x2e20a,
   0x2e20a,
   0x2e20a,
   0x2e20a,
   0x2e20a,
   0x2e20a,
   0x2e20a,
   0x2e20a,
   0x2e20a,
   0x2e20a,
   0x2e20a,
   0x2e20a,
   0x2e20a,
   0x2e20a,
   0xf305ee20a,
   0xe745ae20a,
   0xf305ee20a,
   0xf305ee20a],
  [0xf305ee20a,
   0xf305ee20a,
   0xf305ee20a,
   0x2e20a,
   0xf305ee20a,
   0xf305ee20a,
   0xf305ee20a,
   0xe53238cfdd8dfb54c6d331b44c4cf3f334fccb312ebbaaf31a8cfca17c9adf2673118df2,
   0x2e268,
   0x2e20a,
   0x2e268,
   0x2e20a,
   0x2e20a,
   0x0,
   0xe53238cc7d8dfb54c6d331b44c4cf31734c5cb312ebbaaf31a8cc5a17c9adf2673118df2,
   0xe53238cfdd8dfb54c6d331b44c4cf3f334fccb312ebbaaf31a8cfca17c9adf2673118df2,
   0xe53238cfdd8dfb54c6d331b44c4cf3f334fccb312ebbaaf31a8cfca17c9adf2673118df2,
   0xe53238cfdd8dfb54c6d331b44c4cf3f334fccb312ebbaaf31a8cfca17c9adf2673118df2,
   0xe53238cfdd8dfb54c6d331b44c4cf3f334fccb312ebbaaf31a8cfca17c9adf2673118df2,
   0x0,
   0x2e20a,
   0x2e20a,
   0x2e20a,
   0x2e20a,
   0x2e20a,
   0x2e20a,
   0x2e20a,
   0x2e20a,
   0x2e20a,
   0x2e20a,
   0x2e20a,
   0x2e20a,
   0x2e20a,
   0x2e20a,
   0x2e20a,
   0x2e20a,
   0x2e20a,
   0x2e20a,
   0x2e20a,
   0x2e20a],
  [0x2e20a,
   0x2e20a,
   0x2e20a,
   0x0,
   0x2e20a,
   0x2e20a,
   0x2e20a,
   0x2e20a,
   0x2e20a,
   0x2e20a,
   0x2e20a,
   0x2e20a,
   0x2e20a,
   0x2e20a,
   0xd8dfb54c6d331b453acf4ef353bcb4eaebbaaf31a8d3ba17c9adf2674e98df2,
   0x2e268,
   0x2e20a,
   0x38d10d8dfb54eed33bb3d0fcd43eebbaaf3ba8d0f,
   0xe53fb55f7d37df44fbcb3eebdf7a17c9adf2673ed8df2,
   0x3eb5dd8e035425d309733b4c6ecf0d48baeeabc25,
   0xd8dfb54eed33bb3d3bcd4eeebbaaf3ba8d3b,
   0x3eb5ed8e035425d309733b4c6ecf0d48baeeabc25,
   0x3eb5ed8e035425d309733b4c6ecf0d48baeeabc25,
   0xe532355f7d37df44c4cb312bdf7a17c9adf2673118df2,
   0x3eb61d8e035425d309733b4c6ecf0d48baeeabc25,
   0x3eb5ed8e035425d309733b4c6ecf0d48baeeabc25,
   0x3eb63d8e035425d309733b4c6ecf0d48baeeabc25,
   0x3eb5ed8e035425d309733b4c6ecf0d48baeeabc25,
   0x355f7d37df453acb4eabdf7a17c9adf2674e98df2,
   0x394d6e34175539d34e6bd39,
   0x394d6e34175539d34e6bd39,
   0x394d6e33575539d34e6bd39,
   0x394d6e33575539d34e6bd39,
   0x394d6e34175539d34e6bd39,
   0x394d6e34175539d34e6bd39,
   0x394d6e34175539d34e6bd39,
   0x394d6e34175539d34e6bd39,
   0x394d6e34175539d34e6bd39,
   0x394d6e34175539d34e6bd39,
   0x394d6e34175539d34e6bd39],
  [0x394d6e34175539d34e6bd39,
   0x394d6e34175539d34e6bd39,
   0xd50bf4c2faf0bcabb7,
   0x394d6e33575539d34e6bd39,
   0x394d6e34175539d34e6bd39,
   0x394d6e34175539d34e6bd39,
   0x394d6e34175539d34e6bd39,
   0x394d6e34175539d34e6bd39,
   0x36390d54ff4d3fbaeeabd3f,
   0x35539d34e6bd39,
   0x35539d34e6bd39,
   0xe34475539d34e6bd39,
   0xe34475539d34e6bd39,
   0x35539d34e6bd39,
   0x36390d54ff4d3fbaeeabd3f,
   0x35539d34e6bd39,
   0x36390d50c34c30baeeabc30,
   0x35539d34e6bd39,
   0x35539d34e6bd39,
   0x35432d30cabc32,
   0xe34475539d34e6bd39,
   0x35557d355ebd57,
   0x3555ad356abd5a,
   0x3557ed35fabd7e,
   0x2e3c2,
   0x35539d34e6bd39,
   0x35539d34e6bd39,
   0x35557d355ebd57,
   0x3555dd3576bd5d,
   0x3555ed357abd5e,
   0x3557fd35febd7f,
   0x35580d3602bd80,
   0xd8e42ebba,
   0x0,
   0x0,
   0x0,
   0x0,
   0x0,
   0x0,
   0x0],
  [0x0,
   0x0,
   0x0,
   0x0,
   0x0,
   0x0,
   0x0,
   0x0,
   0x0,
   0x0,
   0x0,
   0x0,
   0x0,
   0x0,
   0x0,
   0x0,
   0x0,
   0x0,
   0x0,
   0x0,
   0x0,
   0x0,
   0x35557d355ebd57,
   0x35557d355ebd57,
   0xd91e6ebba8a59e19678059c99672459c397e,
   0x3555ad356abd5a,
   0x3555bd356ebd5b,
   0x0,
   0x0,
   0x3557ed35fabd7e,
   0x35583d360ebd83,
   0x0,
   0x0,
   0x0,
   0x0,
   0x35539d34e6bd39,
   0x0,
   0xd91e6ebba8a59e19678059c99672459c397e,
   0x35557d355ebd57,
   0x3555cd3572bd5c],
  [0x3555dd3576bd5d,
   0x3555ed357abd5e,
   0x0,
   0x35577d35debd77,
   0x3557ad35eabd7a,
   0x3557bd35eebd7b,
   0x3557fd35febd7f,
   0x35580d3602bd80,
   0x35584d3612bd84,
   0x35585d3616bd85,
   0x3559cd3672bd9c,
   0x3559dd3676bd9d,
   0x355a3d368ebda3,
   0x355a4d3692bda4,
   0x0,
   0x0,
   0x0,
   0xd91e6ebba8a59e19678059c99672459c397e,
   0x0,
   0x35539d34e6bd39,
   0x35557d355ebd57,
   0x35559d3566bd59,
   0x35577d35debd77,
   0x35579d35e6bd79,
   0x3557dd35f6bd7d,
   0x35582d360abd82,
   0x3559bd366ebd9b,
   0x355a2d368abda2,
   0x0,
   0x0,
   0x0,
   0x0,
   0xaf1e86de6197985529,
   0xeaf8de3e3769adc3e76ef8db3e3,
   0xecfe5ec4b75091bc4b,
   0xeafbde3ef76a2dc3e76efbdb3ef,
   0xeaf99e3e676835c3e76ef99b3e6,
   0xecff9ec4b75091bc4b,
   0xeafbde3ef76879c3e76efbdb3ef,
   0xeafa5e3e977165c3e76efa5b3e9],
  [0xed001ec4b75091bc4b,
   0xeafbde3ef77171c3e76efbdb3ef,
   0xeafb1e3ec7717dc3e76efb1b3ec,
   0xed009ec4b75091bc4b,
   0xeafbde3ef77189c3e76efbdb3ef,
   0xecfe5ec4b75091bc4b,
   0xecfe5ec4b75091bc4b,
   0x3abef78fbdc3e76efbdb3ef,
   0xecff9ec4b75091bc4b,
   0xecff9ec4b75091bc4b,
   0xed001ec4b75091bc4b,
   0xed001ec4b75091bc4b,
   0xed009ec4b75091bc4b,
   0xed009ec4b75091bc4b,
   0x2bcd40d3502cd3,
   0x2bdf61d37035f6,
   0xecfe5ec4b75091bc4b,
   0xecff1ec4b75091bc4b,
   0x1f45179145c3ea6f145b451,
   0x1f45279149c3ea6f149b452,
   0xecff1ec4b75091bc4b,
   0xecff9ec4b75091bc4b,
   0xecff1ec4b75091bc4b,
   0xed001ec4b75091bc4b,
   0xecff1ec4b75091bc4b,
   0xed009ec4b75091bc4b,
   0xecff1ec4b75091bc4b,
   0x2bcd40d3502d6f,
   0x2bdf61d62835f6,
   0x2bcd40d3502d6f,
   0x2bdf61d62835f6,
   0xa10fdac3f630fca47b,
   0xa10fdac3f630fca47c,
   0x0,
   0xa10fdac3f630fca4f1,
   0xa1049ac1263048a47b,
   0xa104dac136304ca47c,
   0xe535b8d05,
   0x0,
   0x0],
  [0x0,
   0x0,
   0x27c50,
   0x27cdd,
   0x0,
   0x2bcd40d3502d6f,
   0x2bdf61d62835f6,
   0x3cc19,
   0xe535b8cd5,
   0x3cc19,
   0xe535b8d05,
   0xe535b8d05,
   0xe535b8d05,
   0xe535b8d05,
   0xf907ecc1f,
   0xf909acc26,
   0xaf7fc35ff,
   0x0,
   0x0,
   0x38429530a54429,
   0x0,
   0xc54fa7d69,
   0xf909acc26,
   0xaf5c03570,
   0x0,
   0x38431530c54431,
   0x2849a6b2698c9a,
   0x284f96b3e58cf9,
   0x2860e6b8398e0e,
   0x0,
   0x0,
   0xc555a7d92,
   0xc557e7d93,
   0x38431530c54431,
   0xc56067dac,
   0x0,
   0x0,
   0x0,
   0x0,
   0x0],
  [0x0,
   0x0,
   0xf90eecc3b,
   0xf909acc26,
   0x74fe1cbee,
   0xc099a0d31,
   0xd8e42ebba,
   0x27cdd,
   0xc08220db6,
   0x0,
   0x0,
   0x0,
   0x2e289,
   0x757f9cd50,
   0xc0a3e0d51,
   0x0,
   0x39506,
   0xc08820dc0,
   0x0,
   0x0,
   0x0,
   0x0,
   0x0,
   0x38d11,
   0x0,
   0x0,
   0x0,
   0x0,
   0x0,
   0x0,
   0x0,
   0x0,
   0x0,
   0x0,
   0x0,
   0x0,
   0x0,
   0x0,
   0x0,
   0x0],
  [0x0,
   0x0,
   0x0,
   0x0,
   0x0,
   0xc099a0d31,
   0x2e21c,
   0x7588dcdbf,
   0x394d6,
   0xc0a3e0d51,
   0x758b5cdcd,
   0x758c1cdcf,
   0x74ff5cbf1,
   0xc099a0d31,
   0x0,
   0xc0a3e0d51,
   0x0,
   0x74ffdcbf3,
   0x75005cbf5,
   0xd8e42ebba,
   0x3d481,
   0x3dc82,
   0x31533,
   0x2e268,
   0x5d36,
   0xd8e42ebba,
   0x7d41,
   0x37c8b,
   0x37c8c,
   0x315b7,
   0x3f4e0,
   0xd8e42ebba,
   0x3a4e5,
   0x3d490,
   0x3dc91,
   0xc010a0d49,
   0x3154b,
   0x3cc92,
   0xd8e42ebba,
   0xc05420d52],
  [0x0,
   0x1b8106604,
   0x7d60,
   0x37c97,
   0x37c97,
   0xc07f60d62,
   0x315bb,
   0x39c8f,
   0x3d490,
   0x3dc91,
   0x3cc92,
   0xc01160d6e,
   0xc05560d74,
   0x0,
   0x0,
   0x37c97,
   0xc08020d91,
   0x0,
   0x27da9,
   0x3bc9d,
   0x3c49e,
   0x3bc9f,
   0x3c4a0,
   0x3bc9f,
   0x3c4a0,
   0x0,
   0x0,
   0x0,
   0x0,
   0x0,
   0x3d4aa,
   0x3dcab,
   0x2e20a,
   0x3a50a,
   0x3d490,
   0x3dc91,
   0xc0a960dba,
   0xc0a9a0dc1,
   0xc0aa60dc6,
   0xc0ab20dc9],
  [0x3d4b2,
   0x3dcb3,
   0x3d490,
   0x3dc91,
   0x3d4b6,
   0x3dcb7,
   0x3d490,
   0x3dc91,
   0x31533,
   0xd8e42ebba,
   0xd8e42ebba,
   0x3154b,
   0x31533,
   0x3154b,
   0xd81b,
   0x0,
   0x0,
   0xbeef2f388,
   0x5d36,
   0x0,
   0x394d7,
   0x38cd8,
   0x3153e,
   0x38cd9,
   0x394da,
   0x0,
   0x3f4e0,
   0x3a4e5,
   0x39ce4,
   0x39c8f,
   0x3a4e6,
   0x3154d,
   0x0,
   0x2bceb,
   0x0,
   0x36ced,
   0x0,
   0x38cd9,
   0x394da,
   0x394da],
  [0x38cd9,
   0x38cd9,
   0x394da,
   0x0,
   0x374f0,
   0x0,
   0x0,
   0x315bc,
   0x3f4f4,
   0xa952,
   0x0,
   0x0,
   0x39c8f,
   0x3a4e6,
   0x3a4e6,
   0x3156b,
   0x39cf5,
   0x39c8f,
   0x0,
   0x0,
   0x0,
   0x36cf7,
   0x3153e,
   0x0,
   0x374f8,
   0x0,
   0x315c3,
   0x0,
   0x3f4f4,
   0x39c8f,
   0x0,
   0x36cf7,
   0x374f8,
   0x0,
   0x0,
   0x39507,
   0x38d08,
   0x38cd9,
   0x394da,
   0x0],
  [0x3a50a,
   0x39d09,
   0x39c8f,
   0x3a4e6,
   0x0,
   0x38cd9,
   0x394da,
   0x394da,
   0x38cd9,
   0x39c8f,
   0x3a4e6,
   0x39d0e,
   0x39c8f,
   0x0,
   0x39c8f,
   0x38d12,
   0x38cd9,
   0x38cd9,
   0x38cd9,
   0x39d16,
   0x39c8f,
   0x0,
   0x39c8f,
   0x0,
   0xd82a,
   0xb187,
   0x0,
   0x3154d,
   0x3156b,
   0x3154d,
   0x3156b,
   0x16019,
   0x1601a,
   0x1652a,
   0x1601c,
   0xa93d,
   0x0,
   0x0,
   0x0,
   0x5d36],
  [0x0,
   0x5c8a,
   0x13975,
   0xd81d,
   0x0,
   0x0,
   0x0,
   0x0,
   0x0,
   0x30274,
   0x3154e,
   0xaa75,
   0x0,
   0x0,
   0x0,
   0x0,
   0x31555,
   0x31556,
   0x0,
   0x0,
   0x0,
   0x0,
   0xab91,
   0x3155f,
   0x18561,
   0x0,
   0x31565,
   0x0,
   0x16151,
   0xa98a,
   0x0,
   0x0,
   0x0,
   0x30043,
   0x3156c,
   0xaa96,
   0x3156d,
   0xaa9b,
   0xa844,
   0x0],
  [0x0,
   0x3029f,
   0x30153,
   0x31572,
   0x31573,
   0xa954,
   0xab93,
   0x31576,
   0x0,
   0x31578,
   0x3157c,
   0x31581,
   0x31586,
   0x31587,
   0x31588,
   0xab94,
   0x0,
   0x0,
   0x301fe,
   0x3158e,
   0x3158f,
   0xa9ff,
   0x0,
   0x0,
   0xabb9,
   0x0,
   0x31594,
   0xaaa0,
   0xa846,
   0xa847,
   0x30048,
   0x0,
   0x0,
   0x31595,
   0xa956,
   0xa957,
   0x30158,
   0x0,
   0xab95,
   0x31596],
  [0xab96,
   0x31597,
   0x31598,
   0x31599,
   0xab97,
   0x3159a,
   0x3159e,
   0x3159f,
   0x315a0,
   0xab98,
   0x315a1,
   0x315a5,
   0x315a6,
   0x315a7,
   0xab99,
   0xab9a,
   0xab9b,
   0x0,
   0x0,
   0x0,
   0x0,
   0x315aa,
   0xaa01,
   0xaa02,
   0x0,
   0x30203,
   0x0,
   0x0,
   0xa849,
   0xa959,
   0xab9c,
   0xab9d,
   0xab9e,
   0xab9f,
   0xaba0,
   0x315ad,
   0x315ae,
   0x315af,
   0xaba1,
   0xaba2],
  [0xaba3,
   0xaba4,
   0x315b0,
   0x315b1,
   0x315b2,
   0xaba5,
   0xaba6,
   0xaba7,
   0x0,
   0x0,
   0xaa04,
   0xa95a,
   0x0,
   0xaba8,
   0xaba9,
   0xabaa,
   0xabab,
   0xabac,
   0xabad,
   0x0,
   0x0,
   0x0,
   0x30215,
   0xaa16,
   0x0,
   0x0,
   0x302a7,
   0xaa27,
   0xaa2a,
   0xaaa8,
   0x0,
   0x0,
   0x3022e,
   0x302aa,
   0xaaab,
   0xaa2f,
   0xaaad,
   0xaaae,
   0x302af,
   0xaab0],
  [0xaab1,
   0x302b2,
   0xaab3,
   0xaab4,
   0x0,
   0x0,
   0x0,
   0x0,
   0x16028,
   0x16029,
   0x1602b,
   0xd82c,
   0x315bd,
   0x315c2,
   0x315c4,
   0x315c5,
   0x315c7,
   0x315c8,
   0x315ca,
   0x315cb,
   0x0,
   0x0,
   0x0,
   0x0,
   0x0,
   0x0,
   0x0,
   0x0,
   0x0,
   0x0,
   0x0,
   0x0,
   0x0,
   0x0,
   0x0,
   0x0,
   0x0,
   0x0,
   0x0,
   0x0],
  [0x0,
   0x0,
   0x0,
   0x0,
   0x0,
   0x0,
   0x0,
   0x0,
   0x0,
   0x0,
   0x0,
   0x0,
   0x0,
   0x0,
   0x0,
   0x0,
   0x0,
   0x0,
   0x0,
   0x0,
   0x0,
   0x0,
   0x0,
   0x0,
   0x0,
   0x0,
   0x0,
   0x0,
   0x0,
   0x0,
   0x0,
   0x0,
   0x0,
   0x0,
   0x0,
   0x0,
   0x0,
   0x0,
   0x0,
   0x0],
  [0x0,
   0x0,
   0x0,
   0x0,
   0x0,
   0x0,
   0x0,
   0x0,
   0x0,
   0x0,
   0x0,
   0x0,
   0x0,
   0x0,
   0x0,
   0x0,
   0x0,
   0x0,
   0x0,
   0x0,
   0x0,
   0x0,
   0x0,
   0x0,
   0x0,
   0x0,
   0x0,
   0x0,
   0x0,
   0x0,
   0x0,
   0x0,
   0x0,
   0x0,
   0x0,
   0x0,
   0x0,
   0x0,
   0x0,
   0x0],
  [0x0,
   0x0,
   0x0,
   0x0,
   0x0,
   0x0,
   0x0]]

end Bookmarklet.Script.Grammar
